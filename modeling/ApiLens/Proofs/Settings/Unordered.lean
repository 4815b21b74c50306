import ApiLens.Proofs.Settings.Layered

/-!
What the settings say in any order.

The entries of a file stand in some order, and so do the endings of file names. Neither counts where
each entry leads to a name of its own, and where there is one file.
-/

namespace ApiLens

namespace Layers

variable {layers layers' : Layers} {entries entries' : List (String × Datum)}

-- Each entry of a file leads to a name of its own.
def Apart (entries : List (String × Datum)) : Prop :=
  (entries.map fun e => (KeyPath.ofKey e.1).name).Nodup

theorem lookup_add_congr (h : ∀ key, layers.lookup key = layers'.lookup key) (key) :
    (layers.add origin entries).lookup key = (layers'.add origin entries).lookup key := by
  induction entries generalizing layers layers'
  case nil         => exact h key
  case cons e _ ih => exact ih fun key => by rw [lookup_write, lookup_write, h]

theorem lookup_write_comm (h : (KeyPath.ofKey k).name ≠ (KeyPath.ofKey k').name) (key) :
    (write origin (write origin layers k v) k' v').lookup key =
      (write origin (write origin layers k' v') k v).lookup key := by
  simp only [lookup_write]
  by_cases hk : key = (KeyPath.ofKey k).name
  case pos => simp [hk, h]
  case neg => simp [hk]

theorem lookup_add_of_perm (ha : Apart entries) (hp : entries.Perm entries') (key) :
    (layers.add origin entries).lookup key = (layers.add origin entries').lookup key := by
  induction hp generalizing layers
  case nil => rfl
  case cons ih => exact ih ha.of_cons
  case swap e e' _ =>
    have hn : (KeyPath.ofKey e'.1).name ≠ (KeyPath.ofKey e.1).name := by
      simp only [Apart, List.map_cons, List.nodup_cons, List.mem_cons, not_or] at ha
      exact ha.1.1
    exact lookup_add_congr (lookup_write_comm hn) key
  case trans hp _ ih₁ ih₂ => exact (ih₁ ha).trans <| ih₂ <| (hp.map _).nodup_iff.mp ha

end Layers

namespace SettingsFile

variable {tree : FileTree} {base : Path} {text : String}

theorem find?_eq_none_iff : find? tree base = none ↔
    tree.isFile base ∨ ∀ e ∈ SettingsFormat.endings, tree.read? (base.withEnding e.1) = none := by
  simp only [find?]
  split
  case isTrue h  => simp [h]
  case isFalse h => simp [h]

-- A file that has no other beside it is found, whatever is tried first.
theorem find?_of_alone (hb : tree.isFile base = false) (he : e ∈ SettingsFormat.endings)
    (hr : tree.read? (base.withEnding e.1) = some text)
    (ha : ∀ e' ∈ SettingsFormat.endings, (tree.read? (base.withEnding e'.1)).isSome → e' = e) :
    find? tree base = some ⟨base.withEnding e.1, e.2, text⟩ := by
  cases hf : find? tree base
  case none =>
    obtain h | h := find?_eq_none_iff.mp hf
    case inl => simp [hb] at h
    case inr => simp [h e he] at hr
  case some file =>
    rw [find?, hb] at hf
    have ⟨e', he', h⟩ := List.exists_of_findSome?_eq_some hf
    obtain ⟨text', ht, rfl⟩ := Option.map_eq_some_iff.mp h
    obtain rfl := ha e' he' <| by simp [ht]
    rw [hr] at ht
    cases ht
    rfl

end SettingsFile

namespace Settings

variable {below below' above above' : List (String × Datum)}

theorem ofLayers_of_perm (hb : Layers.Apart below) (hpb : below.Perm below')
    (ha : Layers.Apart above) (hpa : above.Perm above') :
    ofLayers ((Layers.defaults.add home below).add workspace above) =
      ofLayers ((Layers.defaults.add home below').add workspace above') := by
  refine ofLayers_congr fun key _ => ?_
  rw [Layers.lookup_add_of_perm ha hpa]
  exact Layers.lookup_add_congr (Layers.lookup_add_of_perm hb hpb) key

end Settings
end ApiLens
