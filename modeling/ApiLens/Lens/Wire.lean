import ApiLens.Lens

/-!
Reading lenses that an editor hands back.
-/

namespace ApiLens

namespace Position

def shape : RecordShape := ⟨"Position", ["line", "character"]⟩

structure Parts where
  line : Option UInt32 := none
  character : Option UInt32 := none

def step (p : Parts) (key : String) (v : Json) : Except DecodeError Parts :=
  match key with
  | "line" => do return { p with line := some (← Decoder.word v) }
  | "character" => do return { p with character := some (← Decoder.word v) }
  | _ => .ok p

def finish (missing : String → DecodeError) (p : Parts) : Except DecodeError Position := do
  return ⟨← required missing "line" p.line, ← required missing "character" p.character⟩

def decode : Decoder Position := shape.read {} step finish

end Position

namespace Range

def shape : RecordShape := ⟨"Range", ["start", "end"]⟩

structure Parts where
  start : Option Position := none
  stop : Option Position := none

def step (p : Parts) (key : String) (v : Json) : Except DecodeError Parts :=
  match key with
  | "start" => do return { p with start := some (← Position.decode v) }
  | "end" => do return { p with stop := some (← Position.decode v) }
  | _ => .ok p

def finish (missing : String → DecodeError) (p : Parts) : Except DecodeError Range := do
  return ⟨← required missing "start" p.start, ← required missing "end" p.stop⟩

def decode : Decoder Range := shape.read {} step finish

end Range

namespace Command

def shape : RecordShape := ⟨"Command", ["title", "command", "arguments"]⟩

structure Parts where
  title : Option String := none
  command : Option String := none
  arguments : Option (Option (List Json)) := none

def step (p : Parts) (key : String) (v : Json) : Except DecodeError Parts :=
  match key with
  | "title" => do return { p with title := some (← Decoder.text v) }
  | "command" => do return { p with command := some (← Decoder.text v) }
  | "arguments" => do return { p with arguments := some (← Decoder.option (.list .any) v) }
  | _ => .ok p

def finish (missing : String → DecodeError) (p : Parts) : Except DecodeError Command := do
  return ⟨← required missing "title" p.title, ← required missing "command" p.command,
    ← optional missing "arguments" p.arguments⟩

def decode : Decoder Command := shape.read {} step finish

end Command

namespace CodeLens

def shape : RecordShape := ⟨"CodeLens", ["range", "command", "data"]⟩

structure Parts where
  range : Option Range := none
  command : Option (Option Command) := none
  data : Option (Option Json) := none

def step (p : Parts) (key : String) (v : Json) : Except DecodeError Parts :=
  match key with
  | "range" => do return { p with range := some (← Range.decode v) }
  | "command" => do return { p with command := some (← Decoder.option Command.decode v) }
  | "data" => do return { p with data := some (← Decoder.option .any v) }
  | _ => .ok p

def finish (missing : String → DecodeError) (p : Parts) : Except DecodeError CodeLens := do
  return ⟨← required missing "range" p.range, ← optional missing "command" p.command,
    ← optional missing "data" p.data⟩

def decode : Decoder CodeLens := shape.read {} step finish

end CodeLens

end ApiLens
