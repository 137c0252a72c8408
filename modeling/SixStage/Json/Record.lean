-- Values that are asked for: truth values, natural numbers, strings, and
-- records. A record may be written as an object, with its fields in any
-- order and others between them, or as an array of its fields in order.
-- Fields that are missing keep what they were.
import SixStage.Json.Skip

namespace SixStage.Json

/-- What is wrong with a value of a kind that was not asked for. A container is not
read for it; anything else has to be JSON at least. -/
def misfit : Bytes → Fault
  | [] => .ended
  | b :: s =>
    let verdict {α : Type} : Except Fault α → Fault
      | .error e => e
      | .ok _ => .misshapen
    match Char.ofUInt8 b with
    | 'n' => verdict (expectWord ['u', 'l', 'l'] s)
    | 't' => verdict (expectWord ['r', 'u', 'e'] s)
    | 'f' => verdict (expectWord ['a', 'l', 's', 'e'] s)
    | '"' => verdict (text s)
    | '[' => .misshapen
    | '{' => .misshapen
    | _ => if b = 45 ∨ isDigit b then verdict (number (b :: s)) else .malformed

def readBool : Reader Bool := fun s =>
  match skipSpaces s with
  | [] => .error .ended
  | b :: s =>
    match Char.ofUInt8 b with
    | 't' => (expectWord ['r', 'u', 'e'] s).map fun s => (true, s)
    | 'f' => (expectWord ['a', 'l', 's', 'e'] s).map fun s => (false, s)
    | _ => .error (misfit (b :: s))

def readString : Reader String := fun s =>
  match skipSpaces s with
  | [] => .error .ended
  | b :: s => if b = 34 then text s else .error (misfit (b :: s))

def readNat : Reader Nat := fun s =>
  match skipSpaces s with
  | [] => .error .ended
  | b :: s =>
    if b = 45 ∨ isDigit b then
      match number (b :: s) with
      | .error e => .error e
      | .ok (.natural n, s) => .ok (n, s)
      | .ok (.other, _) => .error .misshapen
    else .error (misfit (b :: s))

def readNat? : Reader (Option Nat) := fun s =>
  match skipSpaces s with
  | 110 :: s => (expectWord ['u', 'l', 'l'] s).map fun s => (none, s)
  | s =>
    match readNat s with
    | .error e => .error e
    | .ok (n, s) => .ok (some n, s)

/-! ## Records -/

/-- A field of a record: its name, and how its value changes the record. -/
structure Field (σ : Type) where
  name : String
  read : σ → Reader σ

/-- A field whose value is read on its own. -/
def Field.of {σ α : Type} (name : String) (read : Reader α) (put : σ → α → σ) :
    Field σ :=
  ⟨name, fun record s =>
    match read s with
    | .error e => .error e
    | .ok (value, s) => .ok (put record value, s)⟩

/-- Moves to the next item of an array; none at its end, which stays. -/
def nextItem (isFirst : Bool) (s : Bytes) : Except Fault (Option Bytes) :=
  match skipSpaces s with
  | [] => .error .ended
  | b :: s =>
    if b = 93 then .ok none
    else if isFirst then .ok (some (b :: s))
    else if b ≠ 44 then .error .malformed
    else
      match skipSpaces s with
      | [] => .error .ended
      | b :: s => if b = 93 then .error .malformed else .ok (some (b :: s))

/-- The end of an array or an object. -/
def takeEnd (close : UInt8) (s : Bytes) : Except Fault Bytes :=
  match skipSpaces s with
  | [] => .error .ended
  | b :: s => if b = close then .ok s else .error .malformed

/-- The items of an array, one for each field. -/
def readItems {σ : Type} (isFirst : Bool) (record : σ) : List (Field σ) → Reader σ
  | [], s => (takeEnd 93 s).map fun s => (record, s)
  | f :: fields, s =>
    match nextItem isFirst s with
    | .error e => .error e
    | .ok none => (takeEnd 93 s).map fun s => (record, s)
    | .ok (some s) =>
      match f.read record s with
      | .error e => .error e
      | .ok (record, s) => readItems false record fields s

/-- Moves behind the opening quote of the next name of an object; none at its end,
which stays. -/
def nextName (isFirst : Bool) (s : Bytes) : Except Fault (Option Bytes) :=
  let quote : Bytes → Except Fault (Option Bytes)
    | [] => .error .ended
    | b :: s => if b = 34 then .ok (some s) else .error .malformed
  match skipSpaces s with
  | [] => .error .ended
  | b :: s =>
    if b = 125 then .ok none
    else if isFirst then quote (b :: s)
    else if b ≠ 44 then .error .malformed
    else quote (skipSpaces s)

def takeColon (s : Bytes) : Except Fault Bytes :=
  match skipSpaces s with
  | [] => .error .ended
  | b :: s => if b = 58 then .ok s else .error .malformed

/-- The members of an object. Those that name no field are skipped; none may name a
field that was `seen`. The fuel is more than there are bytes. -/
def readMembers {σ : Type} (fields : List (Field σ)) :
    Nat → List String → Bool → σ → Reader σ
  | 0, _, _, _, _ => .error .ended
  | fuel + 1, seen, isFirst, record, s =>
    match nextName isFirst s with
    | .error e => .error e
    | .ok none => (takeEnd 125 s).map fun s => (record, s)
    | .ok (some s) =>
      match text s with
      | .error e => .error e
      | .ok (name, s) =>
        match fields.find? fun f => f.name = name with
        | none =>
          match takeColon s with
          | .error e => .error e
          | .ok s =>
            match skipValue s with
            | .error e => .error e
            | .ok s => readMembers fields fuel seen false record s
        | some f =>
          if name ∈ seen then .error .misshapen
          else
            match takeColon s with
            | .error e => .error e
            | .ok s =>
              match f.read record s with
              | .error e => .error e
              | .ok (record, s) => readMembers fields fuel (name :: seen) false record s

/-- A record, from what it is where fields are missing. -/
def readRecord {σ : Type} (fields : List (Field σ)) (record : σ) : Reader σ := fun s =>
  match skipSpaces s with
  | [] => .error .ended
  | b :: s =>
    if b = 91 then readItems true record fields s
    else if b = 123 then readMembers fields (s.length + 1) [] true record s
    else .error (misfit (b :: s))

/-- A record that is the whole of a text. -/
def readDocument {σ : Type} (fields : List (Field σ)) (record : σ) (text : String) :
    Except Fault σ :=
  match readRecord fields record text.toUTF8.toList with
  | .error e => .error e
  | .ok (record, s) => if skipSpaces s = [] then .ok record else .error .malformed

end SixStage.Json
