import Mathlib
import ScriptCache.Dependency.Table
import ScriptCache.Proofs.Wire.RoundTrip

/-! Written tables tell where they end.

A table is written as the number of its entries and then entry by entry, each a name behind its
length and the sixteen bytes of a digest. Reading goes by these numbers, so from bytes that begin
with a written table it takes this table and no byte more, whatever stands behind
(`decode_append`). What is written of a table is therefore never the beginning of what is written of
another, and the order of the entries can be told from it (`self_delimiting`). -/
namespace ScriptCache
open Wire

namespace Dependency

theorem digestFormat_returns (d : Digest) : digestFormat.Returns d :=
  Format.via_returns (Format.raw_returns 16 _) rfl

theorem digestFormat_steady : Steady digestFormat.read :=
  Format.via_steady (Format.raw_steady 16) _ _

variable [Memory]

theorem format_returns {d : Dependency} (h : (Utf8.encode d.name).length < Memory.bound) :
    format.Returns d :=
  Format.via_returns (Format.pair_returns (Format.text_returns Memory.bound_le h)
    (digestFormat_returns _)) rfl

theorem format_steady : Steady format.read :=
  Format.via_steady (Format.pair_steady (Format.text_steady _) digestFormat_steady) _ _

end Dependency

namespace DependencyTable

section

variable [Memory] {table other : DependencyTable}

/-- Whether a table can be in memory: its entries can be counted in 64 bits, and there is room for
every name. -/
structure Fits (table : DependencyTable) : Prop where
  names : ∀ d ∈ table.entries, (Utf8.encode d.name).length < Memory.bound
  entries : table.entries.length < UInt64.size

instance (table : DependencyTable) : Decidable table.Fits :=
  decidable_of_iff ((∀ d ∈ table.entries, (Utf8.encode d.name).length < Memory.bound) ∧
    table.entries.length < UInt64.size) ⟨fun h => ⟨h.1, h.2⟩, fun h => ⟨h.names, h.entries⟩⟩

theorem format_returns (h : table.Fits) : format.Returns table := by
  refine Format.via_returns (Format.list_returns h.entries fun d hd => ?_) rfl
  exact Dependency.format_returns (h.names d hd)

theorem format_steady : Steady format.read :=
  Format.via_steady (Format.list_steady Dependency.format_steady) _ _

/-- A table is read back from the beginning of any bytes that it was written to. -/
theorem decode_append (h : table.Fits) (rest : Bytes) :
    decode (table.encode ++ rest) = .ok (table, table.encode.length) := by
  have hread := format_returns h rest none (Cursor.allows_none _)
  unfold decode encode
  rw [hread]
  simp

/-- One table's bytes begin another's only if the tables are the same in every entry. -/
theorem eq_of_begins (h : table.Fits) (hother : other.Fits) (hfirst : table.encode <+: other.encode) :
    table = other := by
  obtain ⟨rest, hrest⟩ := hfirst
  have hwhole : format.put table ++ rest = format.put other ++ [] := by
    rw [List.append_nil]
    exact hrest
  exact ((format_returns h).unique (format_returns hother) hwhole).1

/-- From the bytes of a table, whatever follows them, the same entries are read in the same order, and
it is said how many bytes the table takes up. So tables have the same bytes only if they have the same
entries in the same order, and the bytes of one table never begin those of another. -/
theorem self_delimiting (h : table.Fits) :
    (∀ rest, decode (table.encode ++ rest) = .ok (table, table.encode.length)) ∧
      (∀ other : DependencyTable, other.Fits → table.encode = other.encode →
        table.entries = other.entries) ∧
      ∀ other : DependencyTable, other.Fits → table.encode <+: other.encode →
        table.encode = other.encode := by
  refine ⟨decode_append h, fun other hother heq => ?_, fun other hother hfirst => ?_⟩
  · have hfirst : table.encode <+: other.encode := heq ▸ List.prefix_rfl
    rw [eq_of_begins h hother hfirst]
  · rw [eq_of_begins h hother hfirst]

end

attribute [local instance] Memory.addressSpace

/-- A table whose second name is just too long for a length of one byte, and the same table without
this entry: the bytes of neither begin those of the other, though the entries do. -/
theorem self_delimiting_of_extended :
    let d : Digest := ⟨List.replicate 16 0, rfl⟩
    let short : DependencyTable := ⟨[⟨"a", d⟩]⟩
    let long := short.push (String.ofList (List.replicate 251 'b')) d
    short.Fits ∧ long.Fits ∧ short.entries <+: long.entries ∧
      decode (long.encode ++ [7]) = .ok (long, 289) ∧
      ¬ short.encode <+: long.encode ∧ ¬ long.encode <+: short.encode := by
  intro d short long
  have hshort : short.Fits := by decide
  have hlong : long.Fits := by decide +kernel
  have hsize : long.encode.length = 289 := by decide +kernel
  have hless : short.entries.length < long.entries.length := Nat.lt_succ_self 1
  have hentries : short.entries ≠ long.entries := fun heq => Nat.ne_of_lt hless (congrArg _ heq)
  obtain ⟨-, hsame, hbegins⟩ := self_delimiting hshort
  obtain ⟨hread, hsame', hbegins'⟩ := self_delimiting hlong
  refine ⟨hshort, hlong, List.prefix_append _ _, hsize ▸ hread [7], fun hfirst => ?_,
    fun hfirst => ?_⟩
  · exact hentries (hsame long hlong (hbegins long hlong hfirst))
  · exact hentries (hsame' short hshort (hbegins' short hshort hfirst)).symm

end DependencyTable

end ScriptCache
