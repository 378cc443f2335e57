import MqttLink.Lines.Basic

/-!
# Attended lines

Lines without a script. A dial rings until an attendant, who knows a network, has answered it, and the
attendant is the far side of the link that follows.
-/

namespace MqttLink.Lines

def ring (settings : Settings) (plan : ConnectPlan) (handler : Option Handler) (ls : Lines) :
    Dial × Lines :=
  (.unanswered settings plan handler,
    { ls with dialed := ls.dialed.push ⟨plan.host, plan.port, settings.connectTimeout⟩ })

def attended : Backend Lines Speaker Dial Leave := { backend with dial := fun _ => ring }

/-! ## The attendant -/

/-- A dial that led somewhere becomes a link. -/
def answerTo : Except SessionError Unit → Answer
  | .ok () => .link []
  | .error (.unresolved _ _ reason) => .unresolved reason
  | .error (.unreachable _ _ reason) => .refused reason
  | .error e => .refused e.message

def answer (a : Answer) (ls : Lines) : Lines := { ls with script := ls.script ++ [{ answer := a }] }

/-- Does something at the far side of the latest link. -/
def perform (d : Deed) (ls : Lines) : Lines := ls.changeLatest (·.perform d)

/-- Takes what has been written to the latest link since the last time. -/
def collect (ls : Lines) : Bytes × Lines :=
  (ls.latest?.elim [] Link.sent, ls.changeLatest fun l => { l with accepted := #[] })

end MqttLink.Lines
