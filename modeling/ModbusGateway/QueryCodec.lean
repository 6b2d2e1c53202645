import Mathlib.Data.List.Find
import ModbusGateway.FormFields

/-!
# Query strings, written and read

`UrlEncodeSimple` writes a value, `GetQueryParam` finds it again. The encoder passes only letters that mean
nothing to the decoder, so each byte decodes by itself whatever follows it, and a written value holds no `&`
at which the query would be cut.

* `urlDecode_urlEncodeSimple` — a value arrives unchanged, whatever bytes it is made of.
* `getQueryParam_queryString` — the first pair with the key is the one that is found.
* `addForm_queryString` — so every field of the form of a new point arrives.
* `handle_redirect` — a browser that follows the redirect is shown the notice.
-/

namespace Gateway

/-! ## One value -/

theorem ne_special_of_plain {c : UInt8} (h : isUrlPlain c = true) : c ≠ 37 ∧ c ≠ 43 := by
  constructor <;> (rintro rfl; exact absurd h (by decide))

/-- **One byte**, in front of any others. -/
theorem urlDecode_urlEncodeByte (c : UInt8) (s : Bytes) : urlDecode (urlEncodeByte c ++ s) = c :: urlDecode s := by
  unfold urlEncodeByte
  by_cases hplain : isUrlPlain c = true
  · obtain ⟨hpercent, hplus⟩ := ne_special_of_plain hplain
    rw [if_pos hplain, List.singleton_append, urlDecode_cons hpercent hplus]
  · rw [if_neg hplain]
    by_cases hspace : c = 32
    · rw [if_pos hspace, List.singleton_append, urlDecode_plus, hspace]
    · have hbyte : UInt8.ofInt (Numeral.strtolHex (Numeral.hexByte c)) = c := by
        have hlt : c.toNat < 256 := c.toNat_lt
        have hmod : ((c.toNat : Int) % 2 ^ 8).toNat = c.toNat := by omega
        rw [Numeral.strtolHex_hexByte, UInt8.ofInt, hmod, UInt8.ofNat_toNat]
      rw [if_neg hspace]
      calc urlDecode (37 :: Numeral.hexByte c ++ s)
          = UInt8.ofInt (Numeral.strtolHex (Numeral.hexByte c)) :: urlDecode s := urlDecode_escape _ _ s
        _ = c :: urlDecode s := by rw [hbyte]

/-- Plain bytes stand for themselves. -/
theorem urlEncodeSimple_of_plain {s : Bytes} (h : ∀ c ∈ s, isUrlPlain c = true) : urlEncodeSimple s = s := by
  induction s with
  | nil => rfl
  | cons c s ih =>
    have hc : urlEncodeByte c = [c] := if_pos (h c List.mem_cons_self)
    have hs : urlEncodeSimple s = s := ih fun d hd => h d (List.mem_cons_of_mem c hd)
    calc urlEncodeSimple (c :: s) = urlEncodeByte c ++ urlEncodeSimple s := rfl
      _ = c :: s := by rw [hc, hs]; rfl

/-- **A value.** -/
theorem urlDecode_urlEncodeSimple (s : Bytes) : urlDecode (urlEncodeSimple s) = s := by
  induction s with
  | nil => rfl
  | cons c s ih =>
    rw [urlEncodeSimple, List.flatMap_cons, urlDecode_urlEncodeByte]
    exact congrArg (c :: ·) ih

theorem isUrlPlain_hexUpper {n : Nat} (h : n < 16) : isUrlPlain (Numeral.hexUpper n) = true := by
  interval_cases n <;> rfl

/-- The encoding is made of plain bytes, `+` and `%`. -/
theorem not_mem_urlEncodeSimple {d : UInt8} (hplain : isUrlPlain d = false) (hplus : d ≠ 43) (hpercent : d ≠ 37)
    (s : Bytes) : d ∉ urlEncodeSimple s := by
  intro hd
  obtain ⟨c, -, hc⟩ := List.mem_flatMap.1 hd
  have hne : ∀ b, isUrlPlain b = true → d ≠ b := by
    rintro b hb rfl
    rw [hb] at hplain
    cases hplain
  unfold urlEncodeByte at hc
  by_cases hkept : isUrlPlain c = true
  · rw [if_pos hkept, List.mem_singleton] at hc
    exact hne c hkept hc
  · rw [if_neg hkept] at hc
    by_cases hspace : c = 32
    · rw [if_pos hspace, List.mem_singleton] at hc
      exact hplus hc
    · have hlt : c.toNat < 256 := c.toNat_lt
      rw [if_neg hspace, Numeral.hexByte] at hc
      simp only [List.mem_cons, List.not_mem_nil, or_false] at hc
      rcases hc with hc | hc | hc
      · exact hpercent hc
      · exact hne _ (isUrlPlain_hexUpper (by omega)) hc
      · exact hne _ (isUrlPlain_hexUpper (by omega)) hc

/-! ## The query -/

/-- `k=UrlEncodeSimple(v)` -/
def queryToken (p : Bytes × Bytes) : Bytes := p.1 ++ 61 :: urlEncodeSimple p.2

/-- The pairs joined by `&`. -/
def queryString (pairs : List (Bytes × Bytes)) : Bytes := [38].intercalate (pairs.map queryToken)

/-- The value of the first pair with the key, empty when there is none. -/
def firstValue (pairs : List (Bytes × Bytes)) (key : Bytes) : Bytes :=
  ((pairs.find? fun p => p.1 == key).map Prod.snd).getD []

/-- A token is split at the `=` behind its key. -/
theorem splitAssign_queryToken {p : Bytes × Bytes} (h : 61 ∉ p.1) :
    splitAssign (queryToken p) = (p.1, urlEncodeSimple p.2) := by
  have hkey := Text.bne_of_not_mem h
  rw [splitAssign, queryToken, List.takeWhile_append_of_pos hkey, List.dropWhile_append_of_pos hkey]
  simp

section
variable {pairs : List (Bytes × Bytes)} (h : ∀ p ∈ pairs, p.1 ≠ [] ∧ 38 ∉ p.1 ∧ 61 ∉ p.1)
include h

/-- The query is cut into the tokens it was made of. -/
theorem getlines_queryString : Text.getlines 38 (queryString pairs) = pairs.map queryToken := by
  refine Text.getlines_intercalate ?_
  intro f hf
  obtain ⟨p, hp, rfl⟩ := List.mem_map.1 hf
  obtain ⟨-, hamp, -⟩ := h p hp
  constructor
  · intro hm
    rcases List.mem_append.1 hm with hm | hm
    · exact hamp hm
    · rcases List.mem_cons.1 hm with heq | hm
      · cases heq
      · exact not_mem_urlEncodeSimple (by decide) (by decide) (by decide) _ hm
  · rw [queryToken]
    simp

/-- **A query is read as the pairs it was written from.** -/
theorem getQueryParam_queryString {stem : Bytes} (hstem : 63 ∉ stem) (key : Bytes) :
    getQueryParam (stem ++ 63 :: queryString pairs) key = firstValue pairs key := by
  have hquery : (stem ++ 63 :: queryString pairs).dropWhile (· != 63) = 63 :: queryString pairs := by
    rw [List.dropWhile_append_of_pos (Text.bne_of_not_mem hstem)]
    rfl
  rw [getQueryParam, hquery]
  simp only [getlines_queryString h, List.find?_map, Function.comp_def]
  have hfind : (pairs.find? fun p => (splitAssign (queryToken p)).1 == key) = pairs.find? fun p => p.1 == key := by
    refine List.find?_congr ?_
    intro p hp
    rw [splitAssign_queryToken (h p hp).2.2]
  rw [hfind, firstValue]
  cases hp : pairs.find? (fun p => p.1 == key) with
  | none => rfl
  | some p =>
    have hsplit := splitAssign_queryToken (h p (List.mem_of_find?_eq_some hp)).2.2
    simp [hsplit, urlDecode_urlEncodeSimple]

end

theorem queryString_singleton (p : Bytes × Bytes) : queryString [p] = queryToken p := by
  rw [queryString, List.map_singleton, List.intercalate_singleton]

theorem getQueryParam_singleton {stem k : Bytes} (hstem : 63 ∉ stem) (hk : k ≠ [] ∧ 38 ∉ k ∧ 61 ∉ k) (v : Bytes) :
    getQueryParam (stem ++ 63 :: queryString [(k, v)]) k = v := by
  have hkeys : ∀ p ∈ [(k, v)], p.1 ≠ [] ∧ 38 ∉ p.1 ∧ 61 ∉ p.1 := by simpa using hk
  rw [getQueryParam_queryString hkeys hstem, firstValue, List.find?_cons_of_pos (by simp)]
  rfl

/-- **The query-string codec.** -/
theorem query_codec :
    (∀ stem : Bytes, 63 ∉ stem → ∀ pairs : List (Bytes × Bytes),
      (∀ p ∈ pairs, p.1 ≠ [] ∧ 38 ∉ p.1 ∧ 61 ∉ p.1) →
      ∀ key, getQueryParam (stem ++ 63 :: queryString pairs) key = firstValue pairs key) ∧
    ∀ s, urlDecode (urlEncodeSimple s) = s :=
  ⟨fun _ hstem _ h key => getQueryParam_queryString h hstem key, urlDecode_urlEncodeSimple⟩

/-- A name with a NUL, a percent sign, separators, a line break and a byte of no character. -/
def pairsTwo : List (Bytes × Bytes) := [(str "ip", str "10.0.0.1"), (str "name", [0, 37, 38, 59, 10, 43, 255])]

theorem query_codec_two :
    getQueryParam (str "/addpoint" ++ 63 :: queryString pairsTwo) (str "name") = [0, 37, 38, 59, 10, 43, 255] :=
  query_codec.1 (str "/addpoint") (by decide) pairsTwo (by decide) (str "name")

/-! ## The form of a new point -/

/-- The fields in the order of the form. -/
def AddForm.pairs (form : AddForm) : List (Bytes × Bytes) :=
  [(str "name", form.name), (str "source_protocol", str "modbus_tcp"), (str "ip", form.ip), (str "port", form.port),
    (str "slave_id", form.slave_id), (str "reg", form.reg), (str "address", form.address),
    (str "data_type", form.data_type), (str "dnp_index", form.dnp_index)]

theorem AddForm.pairs_keys (form : AddForm) : ∀ p ∈ form.pairs, p.1 ≠ [] ∧ 38 ∉ p.1 ∧ 61 ∉ p.1 := by
  have hnames : (form.pairs.map Prod.fst).all (fun k => k ≠ [] ∧ 38 ∉ k ∧ 61 ∉ k) = true := rfl
  intro p hp
  simpa using List.all_eq_true.1 hnames p.1 (List.mem_map_of_mem hp)

/-- **Every field arrives.** -/
theorem addForm_queryString (form : AddForm) : addForm (str "/addpoint" ++ 63 :: queryString form.pairs) = form := by
  have hstem : (63 : UInt8) ∉ str "/addpoint" := by decide
  have hread := getQueryParam_queryString form.pairs_keys hstem
  simp only [addForm, hread]
  rfl

/-! ## The redirect -/

/-- The parameter of the redirect is its notice. -/
theorem getQueryParam_redirectLocation (notice : Bytes) :
    getQueryParam (redirectLocation notice) (str "notice") = notice := by
  have hlocation : redirectLocation notice = str "/" ++ 63 :: queryString [(str "notice", notice)] := by
    rw [queryString_singleton]
    rfl
  rw [hlocation]
  exact getQueryParam_singleton (by decide) (by decide) notice

theorem le_of_isUrlPlain {c : UInt8} (h : isUrlPlain c = true) : 45 ≤ c.toNat := by
  simp only [isUrlPlain, Bool.or_eq_true, Bool.and_eq_true, decide_eq_true_eq, beq_iff_eq,
    UInt8.le_iff_toNat_le] at h
  rcases h with (((((⟨h, -⟩ | ⟨h, -⟩) | ⟨h, -⟩) | rfl) | rfl) | rfl) | rfl
  · exact Nat.le_trans (by decide) h
  · exact Nat.le_trans (by decide) h
  · exact Nat.le_trans (by decide) h
  all_goals decide

/-- The location is made of bytes above the space: no blank and no NUL is among them. -/
theorem lt_of_mem_redirectLocation {notice : Bytes} {c : UInt8} (h : c ∈ redirectLocation notice) :
    32 < c.toNat := by
  have hpath : (str "/?notice=").all fun c => 32 < c.toNat := by decide
  rcases List.mem_append.1 h with h | h
  · exact of_decide_eq_true (List.all_eq_true.1 hpath c h)
  · by_cases hplain : isUrlPlain c = true
    · exact Nat.lt_of_lt_of_le (by decide) (le_of_isUrlPlain hplain)
    · by_contra hlow
      refine not_mem_urlEncodeSimple (by simpa using hplain) ?_ ?_ notice h
      · rintro rfl
        exact hlow (by decide)
      · rintro rfl
        exact hlow (by decide)

/-- The location is one word of the request line. -/
theorem requestPath_redirect (notice rest : Bytes) :
    requestPath (str "GET " ++ (redirectLocation notice ++ 32 :: rest)) = redirectLocation notice := by
  have hword : ∀ c ∈ redirectLocation notice, (!Numeral.isSpace c) = true := by
    intro c hc
    simp [Numeral.isSpace_eq_false_of_lt (lt_of_mem_redirectLocation hc)]
  have hsolid : ∀ c ∈ redirectLocation notice, (c != 0) = true :=
    Text.bne_of_not_mem fun hm => absurd (lt_of_mem_redirectLocation hm) (by decide)
  have hget : (str "GET ").all (· != 0) = true := by decide
  have hstring : cString (str "GET " ++ (redirectLocation notice ++ 32 :: rest)) =
      str "GET " ++ (redirectLocation notice ++ 32 :: cString rest) := by
    rw [cString, List.takeWhile_append_of_pos (List.all_eq_true.1 hget), List.takeWhile_append_of_pos hsolid]
    rfl
  have hmethod : nextToken (str "GET " ++ (redirectLocation notice ++ 32 :: cString rest)) =
      (str "GET", 32 :: (redirectLocation notice ++ 32 :: cString rest)) := rfl
  have hpath : nextToken (32 :: (redirectLocation notice ++ 32 :: cString rest)) =
      (redirectLocation notice, 32 :: cString rest) := by
    have hblank : (32 :: (redirectLocation notice ++ 32 :: cString rest)).dropWhile Numeral.isSpace =
        redirectLocation notice ++ 32 :: cString rest := rfl
    rw [nextToken, hblank, List.takeWhile_append_of_pos hword, List.dropWhile_append_of_pos hword]
    simp [Numeral.isSpace]
  rw [requestPath, hstring, hmethod, hpath]

/-- **The notice of a redirect is shown** to a browser that follows it. -/
theorem handle_redirect (file_path : Bytes) (fate : WriteFate) (notice rest : Bytes) (file : PointsFile) :
    handleHttpClient file_path fate (str "GET " ++ (redirectLocation notice ++ 32 :: rest)) file =
      (.page notice (configuredRows file), file) := by
  have hreceived : (str "GET " ++ (redirectLocation notice ++ 32 :: rest)).isEmpty = false := rfl
  have hdelete : (str "/deletepoint").isPrefixOf (redirectLocation notice) = false := rfl
  have hclear : (str "/clearpoints").isPrefixOf (redirectLocation notice) = false := rfl
  have hadd : (str "/addpoint").isPrefixOf (redirectLocation notice) = false := rfl
  have hhome : (str "/?").isPrefixOf (redirectLocation notice) = true := rfl
  rw [handleHttpClient]
  simp only [requestPath_redirect, hreceived, hdelete, hclear, hadd, hhome, getQueryParam_redirectLocation,
    Bool.false_eq_true, if_false, or_true, if_true]

end Gateway
