-- Values of no use. They are taken off the front and only have to be JSON.
import SixStage.Json.Number
import SixStage.Json.Text

namespace SixStage.Json

/-- An array or an object that is being skipped. -/
inductive Frame where
  | array
  | object
  deriving DecidableEq, Repr

def Frame.close : Frame → Char
  | .array => ']'
  | .object => '}'

/-- What has to come next: a value, the first item of a container or its end, or
what follows a value. -/
inductive Expected where
  | value
  | first
  | next
  deriving DecidableEq, Repr

/-- Takes the name of an item off the front, up to its colon; an array has none. -/
def skipItemName : Frame → Bytes → Except Fault Bytes
  | .array, s => .ok s
  | .object, s =>
    match skipSpaces s with
    | [] => .error .ended
    | b :: s =>
      if b ≠ 34 then .error .malformed
      else
        match skipText s with
        | .error e => .error e
        | .ok s =>
          match skipSpaces s with
          | [] => .error .ended
          | b :: s => if b = 58 then .ok s else .error .malformed

/-- Takes a value that is no container off the front. -/
def skipScalar (s : Bytes) : Except Fault Bytes :=
  match s with
  | [] => .error .ended
  | b :: rest =>
    match Char.ofUInt8 b with
    | 'n' => expectWord ['u', 'l', 'l'] rest
    | 't' => expectWord ['r', 'u', 'e'] rest
    | 'f' => expectWord ['a', 'l', 's', 'e'] rest
    | '"' => skipText rest
    | _ => if b = 45 ∨ isDigit b then skipNumber s else .error .malformed

/-- Goes on inside the containers of a stack, the innermost first. The fuel is more
than the steps that the bytes allow. -/
def skipFrom : Nat → List Frame → Expected → Bytes → Except Fault Bytes
  | 0, _, _, _ => .error .ended
  | _ + 1, [], .next, s => .ok s
  | _ + 1, [], .first, s => .ok s
  | fuel + 1, frames, .value, s =>
    match skipSpaces s with
    | [] => .error .ended
    | b :: s =>
      if b = 91 then skipFrom fuel (.array :: frames) .first s
      else if b = 123 then skipFrom fuel (.object :: frames) .first s
      else
        match skipScalar (b :: s) with
        | .error e => .error e
        | .ok s => skipFrom fuel frames .next s
  | fuel + 1, frame :: frames, .first, s =>
    match skipSpaces s with
    | [] => .error .ended
    | b :: s =>
      if Char.ofUInt8 b = frame.close then skipFrom fuel frames .next s
      else
        match skipItemName frame (b :: s) with
        | .error e => .error e
        | .ok s => skipFrom fuel (frame :: frames) .value s
  | fuel + 1, frame :: frames, .next, s =>
    match skipSpaces s with
    | [] => .error .ended
    | b :: s =>
      if Char.ofUInt8 b = frame.close then skipFrom fuel frames .next s
      else if b = 44 then
        match skipItemName frame s with
        | .error e => .error e
        | .ok s => skipFrom fuel (frame :: frames) .value s
      else .error .malformed

/-- Takes a value off the front. -/
def skipValue (s : Bytes) : Except Fault Bytes := skipFrom (2 * s.length + 2) [] .value s

end SixStage.Json
