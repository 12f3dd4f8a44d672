import PodNetwork.Site
import PodNetwork.Corefile.Policy

/-! Patching the Corefile that a cluster keeps in a config map. -/
namespace PodNetwork

def systemNamespace : String := "kube-system"

namespace Corefile

def configMap : String := "coredns"

def key : String := "Corefile"

def defaultTopLevelDomain : String := "net"

def defaultServer : String := "8.8.8.8"

/-- Rewrites the Corefile of a cluster. Every failure is told as a failed patch. -/
def patch (policy : Policy) (server : String) : Routine Unit := do
  let data ← (Site.getConfigMap systemNamespace configMap).mapError fun e =>
    .dnsUnpatched ("failed to read configmap: " ++ e.text)
  match data.get? key with
  | none => throw (.dnsUnpatched "Corefile not found in configmap")
  | some corefile =>
    (Site.updateConfigMap systemNamespace configMap
      [(key, policy.apply corefile server)]).mapError fun e =>
        .dnsUnpatched ("failed to update configmap: " ++ e.text)

end Corefile
end PodNetwork
