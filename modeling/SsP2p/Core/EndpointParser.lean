import SsP2p.Core.EndpointText

/-!
# What the endpoint parser accepts

`str_to_endpoint` looks for a colon without asking whether there is one, reads the port
with `stoi`, which takes any number that the text starts with, and narrows it to 16 bits.
The texts that it turns into an endpoint which is not theirs are exactly those whose port
part starts with a number and is not the decimal text of a port.
-/

namespace SsP2p

/-! ## The numbers `stoi` reads -/

def IsSign (sign : List Char) : Prop :=
  sign = [] ∨ sign = ['+'] ∨ sign = ['-']

def signedValue (sign digits : List Char) : ℤ :=
  if sign = ['-'] then -(Nat.ofDigitChars 10 digits 0 : ℤ) else Nat.ofDigitChars 10 digits 0

/-- Blanks, an optional sign, and digits up to the first character that is none. -/
structure IsNumberText (text sign digits : List Char) : Prop where
  isSign : IsSign sign
  nonempty : digits ≠ []
  areDigits : ∀ c ∈ digits, c.isDigit = true
  around : ∃ blanks rest, text = blanks ++ (sign ++ (digits ++ rest)) ∧
    (∀ c ∈ blanks, isSpace c = true) ∧ ∀ c ∈ rest.head?, c.isDigit = false

/-- The text starts with a number that fits into an `int`. -/
def StartsWith (text : List Char) (value : ℤ) : Prop :=
  ∃ sign digits, IsNumberText text sign digits ∧ value = signedValue sign digits ∧
    -(2 ^ 31) ≤ value ∧ value < 2 ^ 31

/-- What `stoi` makes of a text that starts with a number. -/
theorem stoi_of_isNumberText {text sign digits : List Char}
    (htext : IsNumberText text sign digits) :
    stoi text = if -(2 ^ 31) ≤ signedValue sign digits ∧ signedValue sign digits < 2 ^ 31
      then .ok (signedValue sign digits) else .error .outOfRange := by
  obtain ⟨blanks, rest, rfl, hblanks, hrest⟩ := htext.around
  have htaken : (digits ++ rest).takeWhile Char.isDigit = digits := by
    rw [List.takeWhile_append_of_pos htext.areDigits]
    cases rest with
    | nil => simp
    | cons c rest => simp [hrest c rfl]
  obtain ⟨first, others, rfl⟩ := List.exists_cons_of_ne_nil htext.nonempty
  obtain ⟨hspace, hminus, hplus⟩ := ne_of_isDigit (htext.areDigits first List.mem_cons_self)
  have htrimmed : (blanks ++ (sign ++ (first :: others ++ rest))).dropWhile isSpace =
      sign ++ (first :: others ++ rest) := by
    rw [List.dropWhile_append_of_pos hblanks]
    rcases htext.isSign with rfl | rfl | rfl
    · simp [hspace]
    · simp [isSpace]
    · simp [isSpace]
  simp only [stoi, htrimmed]
  rw [List.cons_append] at htaken
  rcases htext.isSign with rfl | rfl | rfl
  · simp [htaken, signedValue, hminus, hplus]
  · simp [htaken, signedValue]
  · simp [htaken, signedValue]

/-- A number that is read is there. -/
theorem exists_isNumberText {text : List Char} {value : ℤ} (hstoi : stoi text = .ok value) :
    ∃ sign digits, IsNumberText text sign digits := by
  have hblanks : ∀ c ∈ text.takeWhile isSpace, isSpace c = true :=
    fun c hc => List.mem_takeWhile_imp hc
  obtain ⟨sign, unsigned, htrimmed, hsign, hdigits⟩ : ∃ sign unsigned,
      text.dropWhile isSpace = sign ++ unsigned ∧ IsSign sign ∧
        unsigned.takeWhile Char.isDigit ≠ [] := by
    by_cases hminus : (text.dropWhile isSpace).head? = some '-'
    · refine ⟨['-'], (text.dropWhile isSpace).tail, List.eq_cons_of_mem_head? hminus,
        Or.inr (Or.inr rfl), ?_⟩
      intro hnone
      simp [stoi, hminus, hnone] at hstoi
    · by_cases hplus : (text.dropWhile isSpace).head? = some '+'
      · refine ⟨['+'], (text.dropWhile isSpace).tail, List.eq_cons_of_mem_head? hplus,
          Or.inr (Or.inl rfl), ?_⟩
        intro hnone
        simp [stoi, hplus, hnone] at hstoi
      · refine ⟨[], text.dropWhile isSpace, rfl, Or.inl rfl, ?_⟩
        intro hnone
        simp [stoi, hminus, hplus, hnone] at hstoi
  refine ⟨sign, unsigned.takeWhile Char.isDigit, hsign, hdigits,
    fun c hc => List.mem_takeWhile_imp hc, text.takeWhile isSpace,
    unsigned.dropWhile Char.isDigit, ?_, hblanks, ?_⟩
  · rw [List.takeWhile_append_dropWhile, ← htrimmed, List.takeWhile_append_dropWhile]
  · intro c hc
    have hne : unsigned.dropWhile Char.isDigit ≠ [] := by
      rintro hnil
      rw [hnil] at hc
      cases hc
    have hhead := List.head_dropWhile_not Char.isDigit hne
    rw [List.head?_eq_some_head hne] at hc
    rw [← Option.some.inj hc]
    exact hhead

/-- `stoi` reads exactly the numbers that texts start with. -/
theorem stoi_eq_ok_iff {text : List Char} {value : ℤ} :
    stoi text = .ok value ↔ StartsWith text value := by
  constructor
  · intro hstoi
    obtain ⟨sign, digits, htext⟩ := exists_isNumberText hstoi
    rw [stoi_of_isNumberText htext] at hstoi
    split at hstoi
    next hrange => exact ⟨sign, digits, htext, (Except.ok.inj hstoi).symm, by
      rw [← Except.ok.inj hstoi]
      exact hrange⟩
    next => cases hstoi
  · rintro ⟨sign, digits, htext, rfl, hrange⟩
    rw [stoi_of_isNumberText htext, if_pos hrange]

/-! ## The texts that are accepted -/

/-- Colons tell the families of addresses apart: dotted decimal has none, the text of an
IPv6 address always has some. -/
structure Platform.ColonsTellFamily (platform : Platform) : Prop where
  v4 : ∀ text bits, platform.addressFromString text = some (.v4 bits) → ':' ∉ text.toList
  v6 : ∀ text bits scopeId, platform.addressFromString text = some (.v6 bits scopeId) →
    ':' ∈ text.toList

/-- The decimal text of a port, without a sign, leading zeros or anything behind it. -/
def IsPortText (text : List Char) : Prop :=
  ∃ port : UInt16, text = port.toNat.repr.toList

/-- `text` is what `endpoint_to_str` writes for the endpoint, but for the form of the
address, which may be any text of it. -/
def IsTextOf (platform : Platform) (text : String) (ep : Endpoint) : Prop :=
  ∃ addressText, platform.addressFromString addressText = some ep.address ∧
    text = addressText ++ ":" ++ ep.port.toNat.repr

/-- `str_to_endpoint` raises on the text, or returns the endpoint whose text it is. -/
def ReadsOnlyTexts (platform : Platform) (text : String) : Prop :=
  ∀ ep, strToEndpoint platform text = .ok ep → IsTextOf platform text ep

section Texts

variable {platform : Platform}

/-- A text of an address without a colon is cut behind the address. -/
theorem isTextOf_iff (hcolons : platform.ColonsTellFamily) {text : String} {ep : Endpoint}
    (haddress : platform.addressFromString (addressPart text) = some ep.address) :
    IsTextOf platform text ep ↔
      ':' ∈ text.toList ∧ portPart text = ep.port.toNat.repr.toList := by
  constructor
  · rintro ⟨addressText, hfrom, htext⟩
    have hchars : text.toList = addressText.toList ++ ':' :: ep.port.toNat.repr.toList := by
      simp [htext]
    have hnoColon : ':' ∉ addressText.toList := by
      cases hfamily : ep.address with
      | v4 bits => exact hcolons.v4 addressText bits (by rw [hfrom, hfamily])
      | v6 bits scopeId =>
          rw [hfamily] at haddress
          exact absurd (hcolons.v6 _ bits scopeId haddress) (colon_notMem_addressPart text)
    refine ⟨?_, (parts_of_toList_eq hchars hnoColon).2⟩
    rw [hchars]
    simp
  · rintro ⟨hcolon, hport⟩
    refine ⟨addressPart text, haddress, ?_⟩
    rw [← String.toList_inj, toList_eq_parts hcolon, hport]
    simp

theorem not_readsOnlyTexts_of_read (hcolons : platform.ColonsTellFamily) {text : String}
    {ep : Endpoint} (hread : strToEndpoint platform text = .ok ep)
    (hother : ¬ (':' ∈ text.toList ∧ portPart text = ep.port.toNat.repr.toList)) :
    ¬ ReadsOnlyTexts platform text := by
  intro hreads
  obtain ⟨-, -, haddress, -⟩ := strToEndpoint_eq_ok_iff.mp hread
  exact hother ((isTextOf_iff hcolons haddress).mp (hreads ep hread))

/-- The parser returns another endpoint than the text is of exactly when the address part
is an address, and the port part starts with a number and is no port text or is the whole
text. -/
theorem readsOnlyTexts_iff (hcolons : platform.ColonsTellFamily) (text : String) :
    ReadsOnlyTexts platform text ↔
      platform.addressFromString (addressPart text) = none ∨
        (¬ ∃ value, StartsWith (portPart text) value) ∨
        ':' ∈ text.toList ∧ IsPortText (portPart text) := by
  constructor
  · intro hreads
    cases haddress : platform.addressFromString (addressPart text) with
    | none => exact Or.inl rfl
    | some address =>
        refine Or.inr ?_
        by_cases hstarts : ∃ value, StartsWith (portPart text) value
        · obtain ⟨value, hvalue⟩ := hstarts
          have hread : strToEndpoint platform text = .ok ⟨address, UInt16.ofInt value⟩ :=
            strToEndpoint_eq_ok_iff.mpr ⟨value, stoi_eq_ok_iff.mpr hvalue, haddress, rfl⟩
          obtain ⟨hcolon, hport⟩ := (isTextOf_iff hcolons haddress).mp (hreads _ hread)
          exact Or.inr ⟨hcolon, _, hport⟩
        · exact Or.inl hstarts
  · intro hrejected ep hread
    obtain ⟨value, hvalue, haddress, hport⟩ := strToEndpoint_eq_ok_iff.mp hread
    rcases hrejected with hnone | hnumber | ⟨hcolon, port, htext⟩
    · rw [hnone] at haddress
      cases haddress
    · exact absurd ⟨value, stoi_eq_ok_iff.mp hvalue⟩ hnumber
    · rw [isTextOf_iff hcolons haddress]
      refine ⟨hcolon, ?_⟩
      rw [htext, stoi_repr] at hvalue
      rw [htext, hport, ← Except.ok.inj hvalue, ofInt_toNat]

/-! ## The endpoints that are read back -/

/-- What is assumed of the texts of addresses: each is read back as its address. -/
structure Platform.ReadsAddresses (platform : Platform) : Prop extends
    platform.ColonsTellFamily where
  reads : ∀ address, platform.addressFromString (platform.addressToString address) =
    some address

/-- Of the texts that `endpoint_to_str` writes, `str_to_endpoint` reads those of IPv4
endpoints; an IPv6 address is cut at its own first colon. -/
theorem strToEndpoint_endpointToStr_iff (hreads : platform.ReadsAddresses) {ep : Endpoint} :
    strToEndpoint platform (endpointToStr platform ep) = .ok ep ↔ ep.IsV4 := by
  constructor
  · intro hread
    obtain ⟨-, -, haddress, -⟩ := strToEndpoint_eq_ok_iff.mp hread
    cases hfamily : ep.address with
    | v4 bits => exact ⟨bits, hfamily⟩
    | v6 bits scopeId =>
        rw [hfamily] at haddress
        exact absurd (hreads.v6 _ bits scopeId haddress) (colon_notMem_addressPart _)
  · rintro ⟨bits, hbits⟩
    have haddress := hreads.reads ep.address
    refine strToEndpoint_of_noColon haddress ?_
    rw [hbits] at haddress ⊢
    exact hreads.v4 _ bits haddress

end Texts

/-- Only the dotted decimal text of an address is read as it. -/
theorem ipv4Text_of_ipv4OfText {text : String} {bits : BitVec 32}
    (hread : ipv4OfText text = some bits) : ipv4Text bits = text := by
  simp only [ipv4OfText] at hread
  split at hread
  next heq =>
    rw [← Option.some.inj hread]
    exact heq
  next => cases hread

theorem colonsTellFamily_hostPlatform (documents : List (List UInt8 × List (String × Json))) :
    (hostPlatform documents).ColonsTellFamily where
  v4 text bits hfrom := by
    rw [hostPlatform_addressFromString, Option.map_eq_some_iff] at hfrom
    obtain ⟨read, hread, heq⟩ := hfrom
    rw [← ipv4Text_of_ipv4OfText hread]
    exact colon_notMem_ipv4Text read
  v6 text bits scopeId hfrom := by
    rw [hostPlatform_addressFromString, Option.map_eq_some_iff] at hfrom
    obtain ⟨v4Bits, -, heq⟩ := hfrom
    cases heq

/-- The text of the node `10.0.0.1:8100`. -/
theorem readsOnlyTexts_node : ReadsOnlyTexts (hostPlatform []) "10.0.0.1:8100" :=
  (readsOnlyTexts_iff (colonsTellFamily_hostPlatform []) "10.0.0.1:8100").mpr
    (Or.inr (Or.inr ⟨by decide, 8100, by decide⟩))

/-- Without a colon the first octet is also the port; a sign, a port outside of 16 bits and
characters behind the number are accepted as well. -/
theorem not_readsOnlyTexts_malformed :
    strToEndpoint (hostPlatform []) "10.0.0.1" = .ok ⟨.v4 0x0A000001#32, 10⟩ ∧
      strToEndpoint (hostPlatform []) "10.0.0.1:-1" = .ok ⟨.v4 0x0A000001#32, 65535⟩ ∧
      strToEndpoint (hostPlatform []) "10.0.0.1:65616" = .ok ⟨.v4 0x0A000001#32, 80⟩ ∧
      strToEndpoint (hostPlatform []) "10.0.0.1:80x" = .ok ⟨.v4 0x0A000001#32, 80⟩ ∧
      ∀ text ∈ ["10.0.0.1", "10.0.0.1:-1", "10.0.0.1:65616", "10.0.0.1:80x"],
        ¬ ReadsOnlyTexts (hostPlatform []) text := by
  have hcolons := colonsTellFamily_hostPlatform []
  have hnoColon : strToEndpoint (hostPlatform []) "10.0.0.1" =
      .ok ⟨.v4 0x0A000001#32, 10⟩ := Fallible.toOption_eq_some_iff.mp (by decide)
  have hsign : strToEndpoint (hostPlatform []) "10.0.0.1:-1" =
      .ok ⟨.v4 0x0A000001#32, 65535⟩ := Fallible.toOption_eq_some_iff.mp (by decide)
  have hwide : strToEndpoint (hostPlatform []) "10.0.0.1:65616" =
      .ok ⟨.v4 0x0A000001#32, 80⟩ := Fallible.toOption_eq_some_iff.mp (by decide)
  have htrailing : strToEndpoint (hostPlatform []) "10.0.0.1:80x" =
      .ok ⟨.v4 0x0A000001#32, 80⟩ := Fallible.toOption_eq_some_iff.mp (by decide)
  refine ⟨hnoColon, hsign, hwide, htrailing, ?_⟩
  simp only [List.forall_mem_cons, List.not_mem_nil, false_implies, implies_true, and_true]
  exact ⟨not_readsOnlyTexts_of_read hcolons hnoColon (by decide),
    not_readsOnlyTexts_of_read hcolons hsign (by decide),
    not_readsOnlyTexts_of_read hcolons hwide (by decide),
    not_readsOnlyTexts_of_read hcolons htrailing (by decide)⟩

end SsP2p
