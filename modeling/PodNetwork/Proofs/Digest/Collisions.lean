import PodNetwork.Digest.Sha256

/-! Digests as names: what characters they have, and what it means that two messages share one. -/
namespace PodNetwork

namespace Bytes

/-- A text is told by its UTF-8 form. -/
theorem ofString_inj {s t : String} : ofString s = ofString t ↔ s = t := by
  constructor
  · intro h
    exact String.toByteArray_inj.mp (ByteArray.ext (Array.toList_inj.mp h))
  · rintro rfl
    rfl

end Bytes

namespace Sha256

/-- Two different messages whose digests are the same up to a length. -/
def Collide (length : Nat) (message other : Bytes) : Prop :=
  message ≠ other ∧ hexPrefix message length = hexPrefix other length

/-- Equal digests belong to equal messages or to a collision. -/
theorem hexPrefix_eq_iff {length : Nat} {message other : Bytes} :
    hexPrefix message length = hexPrefix other length ↔
      message = other ∨ Collide length message other := by
  constructor
  · intro h
    by_cases same : message = other
    · exact .inl same
    · exact .inr ⟨same, h⟩
  · rintro (rfl | ⟨_, h⟩)
    · rfl
    · exact h

theorem newline_notMem_wordHex (w : UInt32) : '\n' ∉ wordHex w := by
  have digits : ∀ d < 16, Nat.digitChar d ≠ '\n' := by decide
  intro h
  obtain ⟨i, _, hi⟩ := List.mem_map.mp h
  exact digits _ (Nat.mod_lt _ (by decide)) hi

/-- A digest is a single line. -/
theorem newline_notMem_hexPrefix (message : Bytes) (length : Nat) :
    '\n' ∉ (hexPrefix message length).toList := by
  rw [hexPrefix, String.toList_ofList]
  intro h
  obtain ⟨w, _, hw⟩ := List.mem_flatMap.mp (List.mem_of_mem_take h)
  exact newline_notMem_wordHex w hw

def hexDigits : List Char := "0123456789abcdef".toList

theorem length_hexPrefix (message : Bytes) (length : Nat) :
    (hexPrefix message length).toList.length = min length 64 := by
  have eight (w : UInt32) : (wordHex w).length = 8 := by rw [wordHex, List.length_map]; rfl
  have whole : ((digest message).flatMap wordHex).length = 64 := by
    simp only [List.length_flatMap, eight, digest, State.words]
    rfl
  rw [hexPrefix, String.toList_ofList, List.length_take, whole]

/-- A digest is written in hexadecimal digits. -/
theorem mem_hexDigits_of_mem_hexPrefix {message : Bytes} {length : Nat} {c : Char}
    (h : c ∈ (hexPrefix message length).toList) : c ∈ hexDigits := by
  have digits : ∀ d < 16, Nat.digitChar d ∈ hexDigits := by decide
  rw [hexPrefix, String.toList_ofList] at h
  obtain ⟨w, _, hw⟩ := List.mem_flatMap.mp (List.mem_of_mem_take h)
  obtain ⟨i, _, rfl⟩ := List.mem_map.mp hw
  exact digits _ (Nat.mod_lt _ (by decide))

end Sha256
end PodNetwork
