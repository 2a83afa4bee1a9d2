import RpcGate.Listener.Startup

/-!
# Reports

An error in the form in which a run ends with it: a message and its causes.
-/

namespace RpcGate

/-- An error as it is reported: a message and what caused it, the nearest cause first. -/
structure Report where
  message : Text
  causes : List Text
  deriving DecidableEq, Repr

namespace Report

def plain (message : Text) : Report := ⟨message, []⟩

def under (r : Report) (context : Text) : Report := ⟨context, r.message :: r.causes⟩

def ofSettings (e : SettingsError) : Report :=
  match e with
  | .unreadable _ fault => ⟨e.message, [fault.message]⟩
  | _ => plain e.message

def ofStartup (e : StartupError) : Report := ⟨e.message, e.cause?.toList.map Fault.message⟩

/-- A cause's lines after the first are brought under it. -/
def indented (first rest : Text) (t : Text) : Text :=
  first ++ t.flatMap fun c => if c = '\n' then '\n' :: rest else [c]

/-- The causes, numbered when there are several. -/
def causeLines (causes : List Text) : Text :=
  match causes with
  | [] => []
  | [c] => "\n\nCaused by:\n".toList ++ indented "    ".toList "    ".toList c
  | cs => "\n\nCaused by:".toList ++ cs.zipIdx.flatMap fun p =>
      let number := Text.decimal p.2
      '\n' :: indented (List.replicate (5 - number.length) ' ' ++ number ++ ": ".toList)
        "       ".toList p.1

def text (r : Report) : Text := "Error: ".toList ++ r.message ++ causeLines r.causes ++ ['\n']

def chain (r : Report) : Text := r.causes.foldl (fun t c => t ++ ": ".toList ++ c) r.message

end Report

end RpcGate
