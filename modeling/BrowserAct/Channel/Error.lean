import BrowserAct.Act.StateError
import BrowserAct.Text.Hexadecimal
import BrowserAct.Text.Inspect

/-!
# What can go wrong on the channel

The causes, and their wording in one place.
-/

namespace BrowserAct.Channel

/-- Why a message or a key is refused. -/
inductive Error where
  /-- The tag of an encrypted message is wrong. -/
  | decryption
  /-- A key is not written in hexadecimal. -/
  | keyText (cause : Text.Hexadecimal.DecodeError)
  /-- A key has not 32 bytes. -/
  | keyLength
  /-- A message is not encrypted; its type is given. -/
  | notEncrypted (type : String)
  /-- An encrypted message lacks a part or has one of another form. -/
  | malformedEnvelope
  /-- The nonce of an encrypted message has not twelve bytes. -/
  | nonceLength (length : Nat)
  /-- An encrypted message holds no JSON. -/
  | malformedText
  | notAnObject
  /-- A completion says nothing of how the act ended. -/
  | missingResponse
  /-- A completion says of an unknown kind of end. -/
  | unknownCompletion (type : Option String)
  /-- The message that hands over the key has none. -/
  | missingKey
  /-- A complete act is to be bound. -/
  | completedAct
  /-- A settled page is to be bound. -/
  | settledPage
  /-- Another act is still bound. -/
  | actInProgress (actId : String)
  /-- A message was not delivered. -/
  | transport (detail : String)
  /-- The bound act refuses a change. -/
  | actState (cause : Act.StateError)
deriving DecidableEq

namespace Error

def keyTextMessage : Text.Hexadecimal.DecodeError → String
  | .oddLength => "Odd number of digits"
  | .badDigit c position =>
    "Invalid character " ++ Text.inspectSingle c ++ " at position " ++ toString position

def showType : Option String → String
  | some type => "Some(" ++ Text.inspect type ++ ")"
  | none => "None"

def message : Error → String
  | .decryption => "Decryption error"
  | .keyText cause => "Invalid key: " ++ keyTextMessage cause
  | .keyLength => "Invalid key: expected 32 bytes"
  | .notEncrypted type => "Message is not of type encrypted: " ++ type
  | .malformedEnvelope => "Invalid message: malformed envelope"
  | .nonceLength length => "Invalid message: iv must be 12 bytes, got " ++ toString length
  | .malformedText => "Serialization error: not JSON"
  | .notAnObject => "Invalid message: Message must be an object"
  | .missingResponse => "Invalid message: Completion message missing response"
  | .unknownCompletion type => "Invalid message: unknown completion type " ++ showType type
  | .missingKey => "Invalid message: set-key without key"
  | .completedAct => "Binding error: Cannot bind a completed act for more observations"
  | .settledPage => "Binding error: Cannot bind a settled page for more observations"
  | .actInProgress actId => "Binding error: Act " ++ actId ++ " is still in progress"
  | .transport detail => "Transport error: " ++ detail
  | .actState cause => "Act state error: " ++ cause.message

end Error

end BrowserAct.Channel
