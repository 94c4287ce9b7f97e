import Arbiter.Stream.Reply

/-!
# Frames

A reply as a server sends it: a value, an error in the place of one, or a list of frames. A client
reads a frame from left to right and refuses whatever lies too deep as soon as it comes to it.
Otherwise the first error inside, if there is one, is the answer.
-/

namespace Arbiter

inductive Frame where
  | nil
  | int (n : Int64)
  | bulk (bytes : Bytes)
  | status (text : String)
  | bool (b : Bool)
  | error (line : String)
  | array (items : List Frame)
  | set (items : List Frame)
  deriving Inhabited, Repr

/-- A frame that lies too deep. -/
structure DepthFault where
  /-- Bytes that are sent before it. -/
  offset : Nat
  /-- Its second byte. -/
  next : UInt8
  /-- Elements that each list around it still wants, the innermost list first. -/
  wanted : List Nat
  deriving DecidableEq, Repr

namespace DepthFault

/-- The same fault after `n` more bytes. -/
def after (n : Nat) (d : DepthFault) : DepthFault := { d with offset := n + d.offset }

/-- What the client reports: where it stopped, and the byte that it did not read any more. -/
def text (d : DepthFault) : String :=
  "parse error - ParseError: Parse error at " ++ Numeral.text (d.offset + 1) ++ "\nUnexpected `"
    ++ Numeral.text d.next.toNat ++ "`\nUnexpected Maximum recursion depth exceeded\n"
    ++ String.join (d.wanted.eraseDups.map fun (n : Nat) =>
      "expected " ++ Numeral.text n ++ " more elements\n")

end DepthFault

namespace Frame

/-- The deepest level at which a frame is read; one that is in no list has level 1. -/
def maxLevel : Nat := 100

/-- What the first line of a frame holds, after a mark for its kind. -/
def line : Frame → String
  | .nil => "-1"
  | .int n => Numeral.text n.toInt
  | .bulk bytes => Numeral.text bytes.length
  | .status s => s
  | .bool b => if b then "t" else "f"
  | .error s => s
  | .array items => Numeral.text items.length
  | .set items => Numeral.text items.length

/-- Bytes of the first line, with its mark and its end. -/
def lineSize (f : Frame) : Nat := f.line.utf8ByteSize + 3

mutual

/-- Bytes that are sent for a frame. -/
def size (f : Frame) : Nat :=
  f.lineSize +
    match f with
    | .bulk bytes => bytes.length + 2
    | .array items => sizeAll items
    | .set items => sizeAll items
    | _ => 0

def sizeAll : List Frame → Nat
  | [] => 0
  | f :: fs => f.size + sizeAll fs

end

/-- The byte after the mark of a frame. -/
def second (f : Frame) : UInt8 := (Utf8.encode f.line).headD 0x0D

mutual

/-- The first frame that lies too deep in a frame at a level. -/
def tooDeep? (level : Nat) (f : Frame) : Option DepthFault :=
  if maxLevel < level then some ⟨0, f.second, []⟩
  else
    match f with
    | .array items => (anyTooDeep? (level + 1) items).map (·.after f.lineSize)
    | .set items => (anyTooDeep? (level + 1) items).map (·.after f.lineSize)
    | _ => none

/-- The first frame that lies too deep in the rest of a list whose elements have a level. -/
def anyTooDeep? (level : Nat) : List Frame → Option DepthFault
  | [] => none
  | f :: fs =>
    match tooDeep? level f with
    | some d => some { d with wanted := d.wanted ++ [fs.length + 1] }
    | none => (anyTooDeep? level fs).map (·.after f.size)

end

mutual

/-- The reply that a frame holds, or the text of the first error in it. -/
def reply : Frame → Except String Reply
  | .nil => .ok .nil
  | .int n => .ok (.int n)
  | .bulk bytes => .ok (.bulk bytes)
  | .status s => .ok (if s = "OK" then .okay else .status s)
  | .bool b => .ok (.bool b)
  | .error s => .error (Reply.errorText s)
  | .array items => do return .array (← replyAll items)
  | .set items => do return .set (← replyAll items)

def replyAll : List Frame → Except String (List Reply)
  | [] => .ok []
  | f :: fs => do
    let r ← f.reply
    return r :: (← replyAll fs)

end

/-- What a client makes of a frame. -/
def answer (f : Frame) : Answered :=
  match f.tooDeep? 1 with
  | some d => .error d.text
  | none => f.reply

end Frame

end Arbiter
