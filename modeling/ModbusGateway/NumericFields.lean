import ModbusGateway.Csv

/-!
# Numbers of a CSV line

`std::stoi` reads the numeral a field starts with and leaves the rest; the DNP3 index is then narrowed to
16 bits unchecked. `stored_as_written_iff`: the four numbers of a point are those written in the line iff the
line is refused anyway, or its four fields are whole numerals and the index is one of 0 to 65535.
-/

namespace Gateway

/-- The number written in a column of the line, if the whole trimmed field is one. -/
def columnInt (line : Bytes) (j : Nat) : Option Int :=
  Numeral.wholeInt ((splitSemicolonLine (trimCopy line)).getD j [])

/-- The numbers of a point are those of its line. -/
structure NumbersKept (line : Bytes) (p : ReadPointConfig) : Prop where
  port : columnInt line 2 = some p.port.toInt
  slave_id : columnInt line 3 = some p.slave_id.toInt
  address : columnInt line 5 = some p.address.toInt
  index : columnInt line 7 = some (p.dnp3_analog_index.toNat : Int)

/-- The four fields are whole numerals, the index one of a DNP3 point. -/
structure NumbersWritten (line : Bytes) : Prop where
  port : ∃ z, columnInt line 2 = some z
  slave_id : ∃ z, columnInt line 3 = some z
  address : ∃ z, columnInt line 5 = some z
  index : ∃ z, columnInt line 7 = some z ∧ 0 ≤ z ∧ z ≤ 65535

/-- What is stored is what is written, and nothing else is stored. -/
structure StoredAsWritten (line : Bytes) : Prop where
  stored : ∀ p, tryBuildReadPointFromCsvLine line = .ok p → NumbersKept line p
  rejected : ¬NumbersWritten line → ∃ error, tryBuildReadPointFromCsvLine line = .error error

/-- On a whole numeral `std::stoi` gives what it denotes. -/
theorem toInt_of_stoi {t : Bytes} {n : Int32} {z : Int} (h : stoi t = some n) (hz : Numeral.wholeInt t = some z) :
    n.toInt = z := by
  unfold stoi at h
  rw [Numeral.strtol_of_wholeInt hz, Option.bind_some] at h
  split at h
  · rename_i hr
    obtain rfl := Option.some.inj h
    exact Int32.toInt_ofInt_of_le hr.1 (by omega)
  · cases h

/-- The narrowed index is the written one where that is an index. -/
theorem toNat_ofInt_index {z : Int} (h0 : 0 ≤ z) (h1 : z ≤ 65535) : ((UInt16.ofInt z).toNat : Int) = z := by
  simp [UInt16.ofInt]
  omega

theorem numbersKept_of_written {line : Bytes} {p : ReadPointConfig} (hp : Parsed line p) (hw : NumbersWritten line) :
    NumbersKept line p := by
  obtain ⟨⟨port, hport⟩, ⟨slave_id, hslave⟩, ⟨address, haddress⟩, index, hindex, h0, h1⟩ := hw
  refine ⟨?_, ?_, ?_, ?_⟩
  all_goals simp only [columnInt, hp.fields] at hport hslave haddress hindex ⊢
  · rw [hport, toInt_of_stoi hp.port_eq hport]
  · rw [hslave, toInt_of_stoi hp.slave_id_eq hslave]
  · rw [haddress, toInt_of_stoi hp.address_eq haddress]
  · rw [hindex, hp.analog_index_eq, toInt_of_stoi hp.index_eq hindex, toNat_ofInt_index h0 h1]

theorem NumbersKept.written {line : Bytes} {p : ReadPointConfig} (h : NumbersKept line p) : NumbersWritten line := by
  have hlt := p.dnp3_analog_index.toNat_lt
  exact ⟨⟨_, h.port⟩, ⟨_, h.slave_id⟩, ⟨_, h.address⟩, _, h.index, by omega, by omega⟩

/-- **Numbers are stored as written** exactly where the line is refused or holds four whole numerals. -/
theorem stored_as_written_iff (line : Bytes) : StoredAsWritten line ↔ Refused line ∨ NumbersWritten line := by
  rw [← parseLine_eq_none_iff]
  constructor
  · rintro ⟨-, hrejected⟩
    by_cases hw : NumbersWritten line
    · exact .inr hw
    · exact .inl (tryBuild_eq_error_iff.1 (hrejected hw))
  · rintro (hnone | hw)
    · refine ⟨fun p hp => ?_, fun _ => tryBuild_eq_error_iff.2 hnone⟩
      rw [tryBuild_eq_ok_iff, hnone] at hp
      cases hp
    · refine ⟨fun p hp => ?_, fun hno => absurd hw hno⟩
      obtain ⟨hparsed⟩ := parseLine_eq_some_iff.1 (tryBuild_eq_ok_iff.1 hp)
      exact numbersKept_of_written hparsed hw

/-- An index of 65541, and a port with letters behind it. -/
def lineNarrowed : Bytes := str "A;10.0.0.1;502x;1;holding;0;int16;65541"

/-- The line is accepted: the point has the index 5 and the port 502. -/
theorem index_narrowed : ∃ p, tryBuildReadPointFromCsvLine lineNarrowed = .ok p ∧ p.dnp3_analog_index = 5 ∧
    p.port = 502 ∧ columnInt lineNarrowed 7 = some 65541 ∧ columnInt lineNarrowed 2 = none ∧
    ¬StoredAsWritten lineNarrowed := by
  refine ⟨_, rfl, by decide +kernel, by decide +kernel, by decide +kernel, by decide +kernel, ?_⟩
  rintro ⟨hstored, -⟩
  have hport := (hstored _ rfl).port
  have hnone : columnInt lineNarrowed 2 = none := by decide +kernel
  rw [hnone] at hport
  cases hport

end Gateway
