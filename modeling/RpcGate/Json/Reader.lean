import RpcGate.Json.Token
import RpcGate.Text.Utf8

/-!
# Reading JSON

Tokens are folded over the containers that are still open. The text holds
one value, and at most 127 containers may be open at a time.
-/

namespace RpcGate

namespace Json

/-- A container that is still open: items in reverse, or members with the name that waits for its
value. -/
inductive Frame
  | array (items : List Json)
  | object (members : List (Text × Json)) (name : Text)

inductive Expected
  | value
  /-- A first item or the end of the array. -/
  | itemOrEnd
  /-- A first name or the end of the object, whose members are none so far. -/
  | nameOrEnd
  | name (members : List (Text × Json))
  | colon (members : List (Text × Json)) (name : Text)
  /-- A comma or an end, after a value. -/
  | after (value : Json)

structure Reading where
  frames : List Frame
  expected : Expected

namespace Reading

def depthLimit : Nat := 127

def start : Reading := ⟨[], .value⟩

def openFrame? (frames : List Frame) (f : Frame) (expected : Expected) : Option Reading :=
  if frames.length < depthLimit then some ⟨f :: frames, expected⟩ else none

def value? (frames : List Frame) : Token → Option Reading
  | .null => some ⟨frames, .after .null⟩
  | .bool b => some ⟨frames, .after (.bool b)⟩
  | .number n => some ⟨frames, .after (.number n)⟩
  | .string t => some ⟨frames, .after (.string t)⟩
  | .openArray => openFrame? frames (.array []) .itemOrEnd
  | .openObject => openFrame? frames (.object [] []) .nameOrEnd
  | _ => none

/-- What follows a value inside the innermost container. -/
def after? (value : Json) : List Frame → Token → Option Reading
  | .array items :: frames, .comma => some ⟨.array (value :: items) :: frames, .value⟩
  | .array items :: frames, .closeArray => some ⟨frames, .after (.array (value :: items).reverse)⟩
  | .object members name :: frames, .comma =>
    some ⟨.object [] [] :: frames, .name (put name value members)⟩
  | .object members name :: frames, .closeObject =>
    some ⟨frames, .after (.object (put name value members))⟩
  | _, _ => none

def step? (r : Reading) (t : Token) : Option Reading :=
  match r.expected with
  | .value => value? r.frames t
  | .itemOrEnd => match t, r.frames with
    | .closeArray, _ :: frames => some ⟨frames, .after (.array [])⟩
    | t, frames => value? frames t
  | .nameOrEnd => match t, r.frames with
    | .closeObject, _ :: frames => some ⟨frames, .after (.object [])⟩
    | .string name, frames => some ⟨frames, .colon [] name⟩
    | _, _ => none
  | .name members => match t with
    | .string name => some ⟨r.frames, .colon members name⟩
    | _ => none
  | .colon members name => match t, r.frames with
    | .colon, _ :: frames => some ⟨.object members name :: frames, .value⟩
    | _, _ => none
  | .after value => after? value r.frames t

/-- The value, once it is complete and no container is open. -/
def result? (r : Reading) : Option Json :=
  match r.frames, r.expected with
  | [], .after value => some value
  | _, _ => none

end Reading

def ofText? (t : Text) : Option Json := do
  (← (← tokens? t).foldlM Reading.step? Reading.start).result?

def ofBytes? (b : Bytes) : Option Json := (Text.ofUtf8? b).bind ofText?

end Json

end RpcGate
