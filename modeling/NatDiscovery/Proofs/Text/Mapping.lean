import Mathlib.Data.List.Nodup
import NatDiscovery.Proofs.Text.Address
import NatDiscovery.Resolution

/-!
# `Proofs.Text.Mapping` — the text of a mapping tells both addresses

A mapping is written as its two addresses with a slash between them. No address holds a slash
(`slash_notMem_toText`), so the text splits in one way only, and each part is read back
(`IpAddr.ofText?_toText`). Hence different mappings have different texts, and the texts of a report
repeat one only if its mappings do.

## Contents
- `slash_notMem_toText`, `Mapping.count_slash`: the slash
- `Mapping.write_injective`, `Discovery.nodup_texts_iff`: no two mappings share a text
- `Mapping.write_tells_both`: all of it
-/

namespace NatDiscovery

/-- An address is written without a slash. -/
theorem slash_notMem_toText (ip : IpAddr) : '/' ∉ ip.toText := by
  intro h
  rcases inAddress_of_mem_toText h with hdigit | hpoint | hcolon
  · exact absurd hdigit (by simp [Numeral.IsDigit, Numeral.digit?])
  · exact absurd hpoint (by decide)
  · exact absurd hcolon (by decide)

namespace Mapping

theorem count_slash (m : Mapping) : m.toText.count '/' = 1 := by
  rw [toText, List.count_append, List.count_cons_self,
    List.count_eq_zero_of_not_mem (slash_notMem_toText m.external),
    List.count_eq_zero_of_not_mem (slash_notMem_toText m.internal)]

/-- The addresses, a slash between them, as strings. -/
theorem write_eq (m : Mapping) : m.write = m.external.write ++ "/" ++ m.internal.write := by
  apply String.toList_injective
  simp only [write, toText, IpAddr.write, String.toList_append, String.toList_ofList]
  rw [List.append_assoc]
  rfl

theorem write_injective : Function.Injective Mapping.write := by
  intro m m' h
  have htext : m.toText = m'.toText := String.ofList_injective h
  obtain ⟨hexternal, -, hinternal⟩ :=
    (List.append_cons_inj_of_notMem (slash_notMem_toText m.external)
      (slash_notMem_toText m.internal)).mp htext
  obtain ⟨external, internal⟩ := m
  obtain ⟨external', internal'⟩ := m'
  rw [IpAddr.toText_inj] at hexternal hinternal
  show Mapping.mk external internal = ⟨external', internal'⟩
  rw [show external = external' from hexternal, show internal = internal' from hinternal]

end Mapping

/-- The texts of a report repeat one only if its mappings do. -/
theorem Discovery.nodup_texts_iff (d : Discovery) : d.texts.Nodup ↔ d.report.mappings.Nodup :=
  List.nodup_map_iff Mapping.write_injective

/-- **The text of a mapping tells both addresses.** It holds one slash, and the parts before and
    behind it are read back as the external and the internal address. So two mappings have the same
    text exactly when they are equal, where an IPv4 address and its IPv4-mapped form are different
    ones, and a report without repeated mappings has no repeated text. -/
theorem Mapping.write_tells_both :
    (∀ m : Mapping, m.write.toList.count '/' = 1 ∧
      ∃ before behind : String, m.write = before ++ "/" ++ behind ∧
        IpAddr.ofString? before = some m.external ∧ IpAddr.ofString? behind = some m.internal) ∧
    (∀ m m' : Mapping, m.write = m'.write ↔ m = m') ∧
    (∀ (ip : Ipv4) (internal : IpAddr),
      (Mapping.mk (.v4 ip) internal).write ≠ (Mapping.mk (.v6 (.ofIpv4 ip)) internal).write) ∧
    ∀ d : Discovery, d.texts.Nodup ↔ d.report.mappings.Nodup := by
  refine ⟨?_, fun _ _ => write_injective.eq_iff, ?_, Discovery.nodup_texts_iff⟩
  · intro m
    refine ⟨?_, m.external.write, m.internal.write, m.write_eq, IpAddr.ofString?_of_written _,
      IpAddr.ofString?_of_written _⟩
    rw [write, String.toList_ofList, count_slash]
  · intro ip internal h
    injection write_injective h with hexternal
    injection hexternal

end NatDiscovery
