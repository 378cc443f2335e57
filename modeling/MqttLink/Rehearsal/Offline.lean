import MqttLink.Command.Run
import MqttLink.Dial

/-!
# The program without a network

No broker can be reached, so that every job ends with the attempt to connect.
-/

namespace MqttLink.Command

/-- The first connect of a job, on a network. -/
def Job.attempt (n : Network) (job : Job) (said : List Output) : Run :=
  let plan := job.request.plan
  let r := Run.start 0 job said
  let answer := Lines.answerTo (n.dial plan.host plan.port)
  { r with session := { r.session with outside := r.session.outside.answer answer } }.step 0 none

def Job.offline (job : Job) (said : List Output) : Outcome :=
  let r := job.attempt Network.unplugged said
  { exit := r.exit?.getD 0, output := r.output.toList }

/-- What the program does with its arguments, as far as its log goes to a reader of JSON. -/
def offline (w : World) (args : List String) : Outcome :=
  match invocation w.environment args with
  | .error stop => stopped stop
  | .ok i =>
    let outcome := match planWith w i with
      | .done outcome => outcome
      | .connect job said => job.offline said
    let filter := match formatOf w.environment with
      | .json => filterOf w.environment i
      | .pretty | .compact => []
    { outcome with output := outcome.output.filter (Output.isKept filter) }

end MqttLink.Command
