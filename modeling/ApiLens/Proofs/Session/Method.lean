import ApiLens.Proofs.Json.Decode
import ApiLens.Proofs.Session.Run

/-!
The method that each message comes by.
-/

namespace ApiLens

def Message.method : Message → String
  | ready                => "initialized"
  | treeArrived _        => "doclens/syntaxTree"
  | closed _             => "textDocument/didClose"
  | configurationChanged => "workspace/didChangeConfiguration"
  | lensesAsked _        => "textDocument/codeLens"
  | lensChosen _         => "codeLens/resolve"
  | overviewAsked _      => "doclens/projectOverview"
  | rootsAsked _         => "doclens/projectRoots"

namespace Method

variable {v : Json} {m : Message}

theorem fitting_eq_ok_iff : fitting d v = .ok m ↔ d v = .ok m := by
  simp only [fitting]
  cases d v <;> simp

theorem unoffered_ne_ok : unoffered wanted v ≠ .ok m := by
  simp only [unoffered]
  cases wanted v <;> simp

-- Whatever is read comes by `method`.
def Reads (method : String) (d : Decoder Message) : Prop :=
  ∀ v m, d v = .ok m → m.method = method

theorem reads_map {d : Decoder α} {f : α → Message} (h : ∀ a, (f a).method = method) :
    Reads method fun v => f <$> d v := by
  intro v m hm
  obtain ⟨a, rfl⟩ := DecodeError.exists_of_map_eq_ok hm
  exact h a

theorem reads_ready : Reads "initialized" Message.decodeReady := by
  intro v m h
  obtain ⟨_, -, hm⟩ := RecordShape.exists_of_read_eq_ok (P := fun _ => True) h trivial (by simp)
  cases hm
  rfl

theorem reads_configurationChanged :
    Reads "workspace/didChangeConfiguration" Message.decodeConfigurationChanged := by
  intro v m h
  simp only [Message.decodeConfigurationChanged, DecodeError.bind_eq_ok_iff] at h
  obtain ⟨_, _, hm⟩ := h
  cases hm
  rfl

theorem reads_lensesAsked : Reads "textDocument/codeLens" Message.decodeLensesAsked := by
  intro v m h
  cases v
  case obj fields =>
    simp only [Message.decodeLensesAsked] at h
    split at h
    case h_1 =>
      simp only [DecodeError.bind_eq_ok_iff] at h
      obtain ⟨_, _, _, _, _, _, hm⟩ := h
      cases hm
      rfl
    case h_2 => cases h
  all_goals cases h

-- Nothing that comes by `method` is taken for a message of another one.
def Fits (method : String) : Method → Prop
  | request read | notice read => ∀ v m, read v = .ok m → m.method = method
  | _                          => True

theorem fits_fitting {d : Decoder Message} (h : Reads method d) :
    Fits method (request (fitting d)) ∧ Fits method (notice (fitting d)) :=
  ⟨fun v m hm => h v m (fitting_eq_ok_iff.mp hm), fun v m hm => h v m (fitting_eq_ok_iff.mp hm)⟩

theorem fits_unoffered :
    Fits method (request (unoffered wanted)) ∧ Fits method (notice (unoffered wanted)) :=
  ⟨fun _ _ hm => absurd hm unoffered_ne_ok, fun _ _ hm => absurd hm unoffered_ne_ok⟩

theorem fits_offered : ∀ e ∈ offered, Fits e.1 e.2 := by
  have hc : Reads _ Message.decodeClosed := reads_map (f := .closed) fun _ => rfl
  have ht : Reads _ Message.decodeTreeArrived := reads_map (f := .treeArrived) fun _ => rfl
  have hl : Reads _ Message.decodeLensChosen := reads_map (f := .lensChosen) fun _ => rfl
  have ho : Reads _ Message.decodeOverviewAsked := reads_map (f := .overviewAsked) fun _ => rfl
  have hr : Reads _ Message.decodeRootsAsked := reads_map (f := .rootsAsked) fun _ => rfl
  simp only [offered, List.forall_mem_cons]
  refine ⟨trivial, trivial, trivial, trivial, (fits_fitting reads_ready).2, (fits_fitting hc).2,
    (fits_fitting reads_configurationChanged).2, (fits_fitting ht).2,
    (fits_fitting reads_lensesAsked).1, (fits_fitting hl).1, (fits_fitting ho).1,
    (fits_fitting hr).1, List.forall_mem_nil _⟩

theorem fits_of_of? (h : of? method = some k) : k.Fits method := by
  simp only [of?] at h
  split at h
  case h_1 hl =>
    cases h
    obtain ⟨before, after, ho, -⟩ := List.lookup_eq_some_iff.mp hl
    exact fits_offered (method, k) (by simp [ho])
  case h_2 =>
    split at h
    case h_1 => cases h; exact fits_unoffered.1
    case h_2 =>
      split at h <;> cases h
      exact fits_unoffered.2

end Method

theorem Arrival.method_eq_of_message? {a : Arrival} (h : a.message? = some m) :
    a.request.method = m.method := by
  obtain ⟨read, hr, hm⟩ := Option.bind_eq_some_iff.mp h
  have hk : ∃ k, Method.of? a.request.method = some k ∧ (k = .request read ∨ k = .notice read) := by
    simp only [reader?] at hr
    split at hr
    case h_1 hk => split at hr <;> cases hr; exact ⟨_, hk, .inl rfl⟩
    case h_2 hk => split at hr <;> cases hr; exact ⟨_, hk, .inr rfl⟩
    case h_3 => cases hr
  obtain ⟨k, hk, he⟩ := hk
  have hf := Method.fits_of_of? hk
  cases hp : a.request.params
  case none => simp [Request.message, hp, Except.toOption] at hm
  case some params =>
    simp only [Request.message, hp] at hm
    cases hq : read params <;> rw [hq] at hm <;> cases hm
    obtain rfl | rfl := he <;> exact (hf _ _ hq).symm

end ApiLens
