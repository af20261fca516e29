import Vigil.Proofs.Credential.Loading
import Vigil.Proofs.Snapshot.Loading
import Vigil.Proofs.Text.Base64
import Vigil.Proofs.Text.Trim

/-!
# Claims of a token

A token holds its claims in the characters of addresses, between two points
(`Credential.tokenText`). Whatever its header and its signature are, the claims that were written
are read from it, and the credential expires when they say (`Credential.parse_tokenText`): the
same instant that a snapshot of the credential tells.
-/

namespace Vigil.Credential

open Text

/-! ## Parts of a token -/

/-- A token: a header, claims in the characters of addresses, and a signature. -/
def tokenText (header : String) (content : List UInt8) (signature : String) : String :=
  header ++ "." ++ String.ofList (Base64.encodeUrl content) ++ "." ++ signature

/-- The claims of a token stand between its first two dots. -/
theorem claimsPart?_append {header part : List Char} (hheader : '.' ∉ header) (hpart : '.' ∉ part)
    (signature : List Char) :
    claimsPart? (header ++ '.' :: (part ++ '.' :: signature)) = some part := by
  have hpass {cs : List Char} (h : '.' ∉ cs) : ∀ c ∈ cs, decide (c ≠ '.') := by
    intro c hc
    simpa using ne_of_mem_of_not_mem hc h
  have htake : (part ++ '.' :: signature).takeWhile (· ≠ '.') = part := by
    rw [List.takeWhile_append_of_pos (hpass hpart)]
    simp
  rw [claimsPart?, List.dropWhile_append_of_pos (hpass hheader),
    List.dropWhile_cons_of_neg (by simp)]
  exact congrArg some htake

/-- The padding that was left out is put back. -/
theorem map_ofUrl_padded (content : List UInt8) :
    (padded (Base64.encodeUrl content)).map Base64.ofUrl = Base64.encode content := by
  obtain ⟨pads, hencode, -, hlength, hpads⟩ := Base64.exists_encodeUrl_eq content
  have hmissing : (4 - (Base64.encodeUrl content).length % 4) % 4 = pads := by omega
  rw [padded, hmissing, List.map_append, List.map_replicate, hencode]
  rfl

/-- Encoded claims are decoded as the bytes that they were. -/
theorem bytesOf_encodeUrl (content : List UInt8) :
    bytesOf (Base64.encodeUrl content) = .ok content := by
  obtain ⟨-, -, hdigits, -⟩ := Base64.exists_encodeUrl_eq content
  have hascii : (Base64.encodeUrl content).any (fun c => 128 ≤ c.toNat) = false := by
    rw [List.any_eq_false]
    intro c hc
    exact (hdigits c hc).forall (p := fun c => ¬decide (128 ≤ c.toNat) = true) (by decide)
  unfold bytesOf
  rw [hascii, map_ofUrl_padded, Base64.decode_encode]
  rfl

/-- The claims that were written into a token are read from it. -/
theorem claimsOf_tokenText {header : String} {content : List UInt8} {depth : Nat}
    {claims : List (String × Json)} (signature : String) (hheader : '.' ∉ header.toList)
    (hcontent : Json.readBytes depth content = .ok (.object claims)) :
    claimsOf depth (tokenText header content signature) = .ok claims := by
  obtain ⟨-, -, hdigits, -⟩ := Base64.exists_encodeUrl_eq content
  have hpoint : '.' ∉ Base64.encodeUrl content := fun hmem =>
    (hdigits _ hmem).forall (p := (· ≠ '.')) (by decide) rfl
  have hpart : claimsPart? (tokenText header content signature).toList =
      some (Base64.encodeUrl content) := by
    have := claimsPart?_append hheader hpoint signature.toList
    simpa [tokenText] using this
  have hdocument : documentOf depth (tokenText header content signature).toList =
      .ok (.object claims) := by
    simp only [documentOf, hpart, bytesOf_encodeUrl, hcontent]
  rw [claimsOf, hdocument]

/-! ## Tokens without a frame -/

/-- Nothing follows a beginning that is not there. -/
theorem after?_eq_none {beginning cs : List Char} (h : ¬beginning <+: cs) :
    after? beginning cs = none := by
  rw [after?, if_neg (mt List.isPrefixOf_iff_prefix.mp h)]

/-- A text holds a frame only if it holds the beginning of one. -/
theorem framed?_eq_none {cs : List Char} (h : ¬opening <:+: cs) : framed? cs = none := by
  induction cs with
  | nil => rfl
  | cons c cs ih =>
    rw [framed?, after?_eq_none fun hbegins => h hbegins.isInfix]
    exact ih fun hwithin => h (hwithin.trans (List.suffix_cons c cs).isInfix)

section Bare

variable {front token back : List Char} (hfront : ∀ c ∈ front, isBlank c)
  (htoken : ∀ c ∈ token, isBlank c = false) (hback : ∀ c ∈ back, isBlank c)
include hfront htoken hback

/-- A text with white space at its ends only holds no frame: the words of its first line have spaces
between them. -/
theorem opening_not_within : ¬opening <:+: front ++ (token ++ back) := by
  intro hwithin
  -- A letter, a space and a letter would follow each other.
  have hletters : ['B', ' ', 'N'].Sublist (front ++ (token ++ back)) :=
    (show ['B', ' ', 'N'].Sublist opening by decide).trans hwithin.sublist
  obtain ⟨first, rest, hsplit, hfirst, hrest⟩ := List.sublist_append_iff.mp hletters
  cases first with
  | cons c first =>
    obtain rfl : 'B' = c := (List.cons.inj hsplit).1
    exact absurd (hfront 'B' (hfirst.subset List.mem_cons_self)) (by decide)
  | nil =>
    obtain rfl : _ = rest := hsplit
    obtain ⟨within, last, hsplit, hwithin, hlast⟩ := List.sublist_append_iff.mp hrest
    rcases last.eq_nil_or_concat' with rfl | ⟨init, c, rfl⟩
    · have hspace : ' ' ∈ within := by
        rw [List.append_nil] at hsplit
        simp [← hsplit]
      exact absurd (htoken ' ' (hwithin.subset hspace)) (by decide)
    · obtain rfl : 'N' = c := by
        have hend := congrArg List.getLast? hsplit
        rw [← List.append_assoc, List.getLast?_concat] at hend
        exact Option.some.inj hend
      exact absurd (hback 'N' (hlast.subset (by simp))) (by decide)

/-- White space around a token is trimmed. -/
theorem trim_token : trim (front ++ (token ++ back)) = token :=
  trimBy_append hfront hback (fun c hc => htoken c (List.mem_of_mem_head? hc))
    fun c hc => htoken c (List.mem_of_mem_getLast? hc)

end Bare

/-- A token by itself is found, whatever white space is around it. -/
theorem tokenOf_bare {s token : String} {front back : List Char} (h : isToken token.toList)
    (hs : s.toList = front ++ (token.toList ++ back)) (hfront : ∀ c ∈ front, isBlank c)
    (hback : ∀ c ∈ back, isBlank c) : tokenOf s = .ok token := by
  have htoken : ∀ c ∈ token.toList, isBlank c = false := by
    simpa [isToken] using (Bool.and_eq_true_iff.mp h).2
  unfold tokenOf
  rw [hs, framed?_eq_none (opening_not_within hfront htoken hback),
    trim_token hfront htoken hback]
  simp [h]

/-- A text that is a token is its own token. -/
theorem tokenOf_eq_self {s : String} (h : isToken s.toList) : tokenOf s = .ok s := by
  have hbare : s.toList = [] ++ (s.toList ++ []) := by simp
  exact tokenOf_bare h hbare (List.forall_mem_nil _) (List.forall_mem_nil _)

/-! ## The expiry -/

/-- An expiry in whole seconds is read as a snapshot reads it. -/
theorem expiryOf_int {claims : List (String × Json)} {n : Int}
    (hexp : (Json.object claims).member? "exp" = some (.int n)) :
    expiryOf claims =
      Snapshot.instantIfTrue (.ofFields [("expires_at", .int n)]) "expires_at" := by
  rw [Value.ofFields, Snapshot.instantIfTrue_map, expiryOf, hexp]
  rfl

/-- An expiry in whole seconds that is not zero is so long after 1970. -/
theorem expiryOf_ofUnix {claims : List (String × Json)} {n : Int}
    (hexp : (Json.object claims).member? "exp" = some (.int n)) (hne : n ≠ 0) :
    expiryOf claims = some <$> Instant.ofUnix n 0 := by
  have htrue : (Value.int n).truthy := by simpa [Value.truthy] using hne
  rw [expiryOf, hexp]
  change (if (Value.int n).truthy then _ else _) = _
  rw [if_pos htrue]
  rfl

/-- The claims that were written into a token are read from it, whatever its header and its
signature are. A text that is a token tells the expiry that its claims tell: none, if the claim is
missing, null or zero, and otherwise the instant so many seconds after the beginning of 1970, which
is the one that a snapshot of the credential tells for the same number. -/
theorem parse_tokenText {header : String} {content : List UInt8} {depth : Nat}
    {claims : List (String × Json)} (signature : String) (hheader : '.' ∉ header.toList)
    (hcontent : Json.readBytes depth content = .ok (.object claims)) :
    let token := tokenText header content signature
    claimsOf depth token = .ok claims ∧ (isToken token.toList →
      ((Json.object claims).member? "exp" = none → parse depth token = .ok { expiresAt := none }) ∧
      ((Json.object claims).member? "exp" = some .null →
        parse depth token = .ok { expiresAt := none }) ∧
      ∀ n, (Json.object claims).member? "exp" = some (.int n) →
        parse depth token = Snapshot.Credential.ofData (.ofFields [("expires_at", .int n)]) ∧
        (n = 0 → parse depth token = .ok { expiresAt := none }) ∧
        (n ≠ 0 → Instant.InCalendar (n * 1000000) → ∃ t : Instant,
          (t.micros : Int) = Instant.epoch + n * 1000000 ∧
          parse depth token = .ok { expiresAt := some t })) := by
  intro token
  have hclaims : claimsOf depth token = .ok claims := claimsOf_tokenText signature hheader hcontent
  refine ⟨hclaims, fun htoken => ?_⟩
  -- Of the token only the claims matter, and of those only when they expire.
  have hparse : parse depth token = (return { expiresAt := ← expiryOf claims }) := by
    rw [parse, tokenOf_eq_self htoken]
    change (claimsOf depth token >>= _) = _
    rw [hclaims]
    rfl
  rw [hparse]
  refine ⟨?_, ?_, fun n hexp => ⟨?_, ?_, ?_⟩⟩
  · intro hexp
    rw [expiryOf, hexp]
    rfl
  · intro hexp
    rw [expiryOf, hexp]
    rfl
  · rw [expiryOf_int hexp]
    rfl
  · rintro rfl
    rw [expiryOf, hexp]
    rfl
  · intro hne hcalendar
    obtain ⟨t, ht, hmicros⟩ := Instant.exists_ofUnix hcalendar
    refine ⟨t, hmicros, ?_⟩
    rw [expiryOf_ofUnix hexp hne, ht]
    rfl

/-- A token that expires at the beginning of 2030. Its claims are one byte more than groups of
three, so two characters of padding are left out. -/
theorem parse_tokenText_year_2030 :
    let content := [0x7b, 0x22, 0x65, 0x78, 0x70, 0x22, 0x3a, 0x20, 0x31, 0x38, 0x39, 0x33, 0x34,
      0x35, 0x36, 0x30, 0x30, 0x30, 0x7d]
    let token := tokenText "eyJhbGciOiJub25lIn0" content "c2ln"
    ∃ t : Instant, (t.micros : Int) = Instant.epoch + 1893456000 * 1000000 ∧
      claimsOf 1000 token = .ok [("exp", .int 1893456000)] ∧
      parse 1000 token = .ok { expiresAt := some t } := by
  intro content token
  have hcontent : Json.readBytes 1000 content = .ok (.object [("exp", .int 1893456000)]) := by rfl
  have hheader : '.' ∉ "eyJhbGciOiJub25lIn0".toList := by decide
  obtain ⟨hclaims, hexpiry⟩ := parse_tokenText "c2ln" hheader hcontent
  obtain ⟨-, -, hint⟩ := hexpiry (by decide)
  obtain ⟨-, -, hinstant⟩ := hint 1893456000 rfl
  obtain ⟨t, hmicros, hparse⟩ := hinstant (by decide) (by decide)
  exact ⟨t, hmicros, hclaims, hparse⟩

end Vigil.Credential
