import Hawse.Net
import Mathlib.Data.List.Destutter
import Mathlib.Data.List.Sort

namespace Hawse

structure AllowList where
  nets : List IpNet
deriving DecidableEq

namespace AllowList
variable [Ipnet]

def overlaps (client ceiling : List IpNet) : List IpNet :=
  client.flatMap fun a => ceiling.filterMap fun b =>
    if Ipnet.contains a b then some b
    else if Ipnet.contains b a then some a
    else none

def effective (client ceiling : List IpNet) : Option AllowList :=
  let client := client.map Ipnet.trunc
  let ceiling := ceiling.map Ipnet.trunc
  if client.isEmpty then some ⟨ceiling⟩
  else if ceiling.isEmpty then some ⟨client⟩
  else
    let both := ((overlaps client ceiling).insertionSort (Ipnet.le · ·)).destutter (· ≠ ·)
    if both.isEmpty then none else some ⟨both⟩

def permits (allow : AllowList) (ip : IpAddr) : Bool :=
  allow.nets.isEmpty || allow.nets.any fun net => Ipnet.containsAddr net ip.toCanonical

end AllowList
end Hawse
