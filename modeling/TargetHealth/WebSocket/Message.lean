import TargetHealth.WebSocket.Frame

namespace TargetHealth.WebSocket

inductive Message where
  | text (payload : Bytes)
  | binary (payload : Bytes)
  | ping (payload : Bytes)
  | pong
  | close
deriving DecidableEq, Repr

structure Fragment where
  isText : Bool
  payload : Bytes
deriving DecidableEq, Repr

inductive Delivery where
  | message (m : Message)
  | fragment (f : Fragment)
  | violation
deriving DecidableEq, Repr

def maxMessage : Nat := 64 * Nat.pow 2 20

def maxControl : Nat := 125

def isClosing (payload : Bytes) : Bool :=
  match payload with
  | [] => true
  | [_] => false
  | _ :: _ :: reason => Utf8.form reason = .whole

namespace Fragment

def deliver (f : Fragment) (final : Bool) : Delivery :=
  if maxMessage < f.payload.length then .violation
  else if !f.isText then
    if final then .message (.binary f.payload) else .fragment f
  else
    match Utf8.form f.payload with
    | .broken => .violation
    | .cut => if final then .violation else .fragment f
    | .whole => if final then .message (.text f.payload) else .fragment f

end Fragment

namespace Frame

def isProper (f : Frame) : Bool := f.reserved == 0 && f.mask.isNone

def deliverControl (f : Frame) : Delivery :=
  if !f.final || maxControl < f.payload.length then .violation
  else if f.opcode = ping then .message (.ping f.payload)
  else if f.opcode = pong then .message .pong
  else if isClosing f.payload then .message .close
  else .violation

def deliver (f : Frame) (fragment : Option Fragment) : Delivery :=
  if !f.isProper then .violation
  else if f.isControl then f.deliverControl
  else
    match fragment with
    | some before =>
      if f.opcode = continuation then { before with payload := before.payload ++ f.payload }.deliver f.final
      else .violation
    | none => if f.opcode = continuation then .violation else (Fragment.mk (f.opcode = text) f.payload).deliver f.final

end Frame

end TargetHealth.WebSocket
