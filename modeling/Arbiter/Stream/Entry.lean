import Arbiter.Stream.Reply

/-!
# Entries of a stream

What a read of one stream answers: a list of streams, of which the first holds its name and its
entries, each an id and a list of names and values. The value of the first `payload` is the entry's
message.
-/

namespace Arbiter

structure Entry where
  id : String
  /-- None when the entry has no message, or was trimmed. -/
  payload : Option String
  deriving DecidableEq, Repr

/-- Why a reply holds no entries that can be read. -/
inductive EntryFault where
  | response
  | entries
  | entry
  | id
  deriving DecidableEq, Repr

def EntryFault.text : EntryFault → String
  | .response => "Invalid stream response format"
  | .entries => "Invalid stream entries"
  | .entry => "Invalid stream entry"
  | .id => "Invalid entry ID"

namespace Entry

def payloadField : String := "payload"

/-- The value of the first pair whose name is `payload`. -/
def payloadOf : List Reply → Option String
  | .bulk name :: .bulk value :: rest =>
    if name = Utf8.encode payloadField then some (Utf8.readLossy value) else payloadOf rest
  | _ :: _ :: rest => payloadOf rest
  | _ => none

def ofReply : Reply → Except EntryFault Entry
  | .array (.bulk id :: rest) =>
    let payload :=
      match rest with
      | .array pairs :: _ => payloadOf pairs
      | _ => none
    .ok ⟨Utf8.readLossy id, payload⟩
  | .array _ => .error .id
  | _ => .error .entry

/-- The entries of a read, or none when nothing came in time. -/
def ofRead : Reply → Except EntryFault (List Entry)
  | .nil => .ok []
  | .array (.array stream :: _) =>
    match stream with
    | _ :: .array messages :: _ => messages.mapM ofReply
    | _ :: .nil :: _ | [_] | [] => .ok []
    | _ => .error .entries
  | .array _ => .ok []
  | _ => .error .response

end Entry

end Arbiter
