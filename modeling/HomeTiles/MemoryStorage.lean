import HomeTiles.Storage

/-!
# Memory storage: a record kept by the process

The record that is kept is what reading back its text gives, so that it is the
record that any other storage would keep. Writing can be switched off.
-/

namespace HomeTiles

/-- The memory that keeps a record and counts the writes. -/
structure Memory where
  record : Option Value := none
  refusesWrites : Bool := false
  writes : Nat := 0

namespace Memory

/-- What the record comes back as after it was written out and read. -/
def keep (record : Value) : Except Cause Value :=
  match record.write .compact with
  | .error fault => .error (.write fault)
  | .ok text => match Value.read text with
    | .error fault => .error (.read fault)
    | .ok kept => .ok kept

def save (record : Value) (memory : Memory) : Outcome Memory :=
  if memory.refusesWrites then ⟨.error (.unavailable .disabled), memory, []⟩
  else match keep record with
    | .error cause => ⟨.error (.unavailable (.notSerializable cause)), memory, []⟩
    | .ok kept => ⟨.ok (), { memory with record := kept.present?, writes := memory.writes + 1 }, []⟩

def clear (memory : Memory) : Outcome Memory :=
  if memory.refusesWrites then ⟨.error (.unavailable .disabled), memory, []⟩
  else ⟨.ok (), { memory with record := none }, []⟩

def storage : Storage Memory where
  load memory := (.ok memory.record, [])
  save := save
  clear := clear

end Memory
end HomeTiles
