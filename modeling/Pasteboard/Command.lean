import Pasteboard.Container
import Pasteboard.Reply
import Pasteboard.Transfer

/-!
# Commands

The two commands for a user interface. A clipboard failure ends as a reply with one sentence for the
user, and a notice says so; failures of any other kind are passed on.
-/

namespace Pasteboard

namespace Reply

/-- The kind of reply that a command gives. -/
def kindOf : Operation → ReplyKind
  | .copy => .nothing
  | .read => .text

end Reply

namespace Command

variable {β : Type}

/-- The reply to a clipboard failure. -/
def failed (op : Operation) (f : Failure) : Action (Host β) Reply := do
  let message ← Action.ofResult f.display
  Host.notify (.commandFailed op message)
  Action.ofResult (Reply.failure (Reply.kindOf op) (.text message))

/-- Does a transfer and replies with what it hands over. -/
def replying (op : Operation) (transfer : Action (Host β) Value) : Action (Host β) Reply := do
  let outcome ← tryCatch (Except.ok <$> transfer) fun f =>
    if f.isClipboard then pure (.error f) else throw f
  match outcome with
  | .ok value => Action.ofResult (Reply.success (Reply.kindOf op) value)
  | .error f => failed op f

/-- Puts a text on the clipboard of a container. -/
def copy (c : Container β) (text : Value) : Action (Host β) Reply :=
  replying .copy (do c.clipboard.copy text; pure .null)

/-- Reads the text on the clipboard of a container. -/
def read (c : Container β) : Action (Host β) Reply := replying .read c.clipboard.read

end Command

end Pasteboard
