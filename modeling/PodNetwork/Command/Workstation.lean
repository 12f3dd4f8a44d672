import PodNetwork.Command.Run
import PodNetwork.Host.Local

/-! The local machine as the workstation that commands are run on. -/
namespace PodNetwork

namespace Local

def serve : (call : WorkstationCall) → Local call.Answer
  | .load path => ask (.readFile path)
  | .print text => ask (.print text)
  | .site access call => answer access call

end Local

def CommandLine.procedure (line : CommandLine) : Procedure System (Outcome Unit) :=
  Prod.fst <$> (line.run.run.interpret (I := Workstation) Local.serve).run {}

end PodNetwork
