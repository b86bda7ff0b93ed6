import BrowserAct.Act.Classify

/-!
# Failures and the acts they are about

A failure says what went wrong and carries the view of an act. What went wrong is read off the payload
alone, and the view is attached as it is.

* **`Failure.about`** is the same failure of another act.
* **`classify_about`** says that classifying a payload for one act or for another gives the same failure,
  each about its own act.
-/

namespace BrowserAct.Act

namespace Failure

/-- What went wrong, about another act. -/
def about (f : Failure) (metadata : Metadata) : Failure :=
  { f with metadata }

variable (f : Failure) (metadata other : Metadata)

@[simp] theorem of_about (kind : FailureKind) :
    (of kind metadata).about other = of kind other := rfl

@[simp] theorem withMessage_about (message : String) :
    (f.withMessage message).about other = (f.about other).withMessage message := by
  rw [withMessage, withMessage]
  split <;> rfl

@[simp] theorem withRequestId_about (requestId : String) :
    (f.withRequestId requestId).about other = (f.about other).withRequestId requestId := rfl

@[simp] theorem withRaw_about (raw : String) :
    (f.withRaw raw).about other = (f.about other).withRaw raw := rfl

@[simp] theorem auth_about (service : Service) (requestId : String) :
    (auth service metadata requestId).about other = auth service other requestId := by
  simp [auth]

end Failure

variable (object payload : Json) (metadata other : Metadata) (service : Service)

@[simp] theorem unrecognised_about (message : String) :
    (unrecognised metadata message object).about other = unrecognised other message object := by
  simp [unrecognised]

/-- Whose act it was does not matter to a code by name. -/
theorem classifyNamedCode_about (code : String) :
    (classifyNamedCode code object metadata).about other = classifyNamedCode code object other := by
  rw [classifyNamedCode, classifyNamedCode]
  repeat' split
  all_goals simp

theorem reasonFailure?_about (details : Json) :
    (reasonFailure? details metadata).map (·.about other) = reasonFailure? details other := by
  rw [reasonFailure?, reasonFailure?]
  split <;> simp

theorem classifyStatus_about (code : Int) :
    (classifyStatus code object metadata service).about other =
      classifyStatus code object other service := by
  -- a reason of its own comes first, and is about either act or about neither
  have hreason (details? : Option Json) :
      (if code = 400 then details?.bind (reasonFailure? · other) else none) =
        (if code = 400 then details?.bind (reasonFailure? · metadata) else none).map
          (·.about other) := by
    split
    · cases details? with
      | none => rfl
      | some details => exact (reasonFailure?_about metadata other details).symm
    · rfl
  rw [classifyStatus, classifyStatus]
  dsimp only
  rw [hreason]
  generalize (if code = 400 then _ else none) = reason?
  cases reason? with
  | some failure => rfl
  | none =>
    dsimp only [Option.map_none]
    repeat' split
    all_goals simp

theorem classifyService_about :
    (classifyService object metadata service).about other = classifyService object other service := by
  rw [classifyService, classifyService]
  split
  · exact classifyNamedCode_about object metadata other _
  · split
    · split
      · simp
      · exact classifyStatus_about object metadata other service _
    · simp
  · simp

theorem classifyClient_about :
    (classifyClient object metadata).about other = classifyClient object other := by
  rw [classifyClient, classifyClient]
  split <;> simp

theorem classifyObject_about :
    (classifyObject object metadata service).about other = classifyObject object other service := by
  rw [classifyObject, classifyObject]
  split
  · split
    · exact classifyService_about object metadata other service
    · split
      · exact classifyClient_about object metadata other
      · simp
  · simp

theorem classifyCarried_about :
    (classifyCarried payload metadata service).about other = classifyCarried payload other service := by
  rw [classifyCarried, classifyCarried]
  split
  · exact classifyObject_about payload metadata other service
  split
  · exact classifyObject_about _ metadata other service
  · split
    · exact classifyObject_about _ metadata other service
    · simp
  · simp

/-- **What went wrong is read off the payload alone.** -/
theorem classify_about (timedOut : Bool) :
    (classify payload timedOut metadata service).about other =
      classify payload timedOut other service := by
  rw [classify, classify]
  repeat' split
  · simp
  · simp
  · simp
  · exact classifyCarried_about payload metadata other service

end BrowserAct.Act
