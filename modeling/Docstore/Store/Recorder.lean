import Docstore.Store.Call

/-!
# Recording calls

`Recorder.adapter` keeps no documents. It remembers the calls it gets, in their order, and answers
each in the plainest way, or fails each with a given reason. It shows what a model asks of a store.
-/

namespace Docstore

/-- A call of any kind. -/
abbrev AnyCall := (α : Type) × Call α

namespace Recorder

/-- The identifier that a recorder gives to a document that comes without one. -/
def defaultId : String := "recorded"

/-- The plainest answer to a call. -/
def plainAnswer : Call α → α
  | .list _ _ => []
  | .read _ id => ⟨id, ∅⟩
  | .create _ _ id? => id?.getD defaultId
  | .update _ _ _ => ()
  | .delete _ _ => ()

/-- Remembers each call after those before it, then answers it or fails. -/
def adapter (fail? : Option String) : Adapter (List AnyCall) where
  answer call calls :=
    (match fail? with
      | some reason => .error (.backend reason)
      | none => .ok (plainAnswer call),
    calls ++ [⟨_, call⟩])

end Recorder

end Docstore
