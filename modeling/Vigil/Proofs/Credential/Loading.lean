import Vigil.Credential.Claims
import Vigil.Proofs.Json.Nesting
import Vigil.Proofs.Value.Converting

/-!
# Loading credentials

What can go wrong where a credential is loaded: its path, the bytes of its file, the text, the token
in it, and the claims of the token. Most of that is told as a fault of the credential. The other
faults are those of paths that cannot be one (`Path.IsHomeless`, `Files.isRefused`), of bytes that
are no text, of claims that are nested too deep and of an expiry that is no time
(`Credential.Unsound`), and no others (`Credential.load_outcome`). How deep claims may be nested
plays no other part: under a higher limit the outcome is the same, unless it was a refusal for
nesting (`Credential.load_of_le`).
-/

namespace Vigil

/-- Whether a fault is told as one of the credential. -/
def Fault.isCredential : Fault → Bool
  | .credential _ => true
  | _ => false

namespace Path

/-- The path begins at the home of a user, and there is none for the name. -/
def IsHomeless (p : Path) (homes : Homes) : Prop :=
  ∃ user, p.user? = some user ∧ ('\x00' ∈ user.toList ∨ homes user = none)

/-- The home of a user is missing if no user can have the name or none has it. -/
theorem stops_home (homes : Homes) (user : String) :
    Stops (home homes user) ↔ '\x00' ∈ user.toList ∨ homes user = none := by
  unfold home
  by_cases hnull : '\x00' ∈ user.toList
  · simp [hnull]
  · cases hhome : homes user <;> simp [hnull]

/-- A path is expanded unless it begins at a home that is missing. -/
theorem stops_expand (p : Path) (homes : Homes) : Stops (p.expand homes) ↔ p.IsHomeless homes := by
  unfold expand IsHomeless
  cases p.user? with
  | none => simp
  | some user => simp [stops_home]

/-- A missing home is not told as a fault of the credential. -/
theorem expand_failsWith (p : Path) (homes : Homes) :
    FailsWith (·.isCredential = false) (p.expand homes) := by
  have hhome (user : String) : FailsWith (·.isCredential = false) (home homes user) := by
    unfold home
    refine .ite (fun _ => by simp [Fault.isCredential]) fun _ => ?_
    split
    · exact .ok _
    · simp [Fault.isCredential]
  unfold expand
  split
  · exact (hhome _).bind fun _ => .pure _
  · exact .ok _

end Path

/-- A path that is not refused is read, or the fault is one of the file. -/
theorem Files.read_failsWith (files : Files) {p : Path} (h : isRefused p = false) :
    FailsWith (fun fault => ∃ cause, fault = .file cause) (files.read p) := by
  rw [read, h]
  split
  · contradiction
  · split
    · exact .ok _
    · simp
    · rename_i absence _
      cases absence <;> simp [Absence.fault]

namespace Credential

/-! ## Claims -/

/-- A text without a token is told as a fault of the credential. -/
theorem tokenOf_failsWith (s : String) : FailsWith (·.isCredential) (tokenOf s) := by
  unfold tokenOf
  split
  · exact .ok _
  · refine .ite (fun _ => .ok _) fun _ => ?_
    simp [Fault.isCredential]

/-- The claims of a token are nested too deep to be read. -/
def IsNested (depth : Nat) (token : String) : Prop :=
  ∃ reason, documentOf depth token.toList = .error (.nesting reason)

/-- Claims that cannot be read are told as a fault of the credential unless they are nested too
deep. -/
theorem escapes_claimsOf_iff (depth : Nat) (token : String) :
    Escapes Fault.isCredential (claimsOf depth token) ↔ IsNested depth token := by
  unfold claimsOf IsNested
  split <;> simp_all [Fault.isCredential]

/-- There is a claim of the expiry that counts as true, and it is no time. -/
def ExpiryIsUnfit (claims : List (String × Json)) : Prop :=
  ∃ j, (Json.object claims).member? "exp" = some j ∧ j.toValue.truthy ∧ ¬j.toValue.IsUnixTime

/-- The expiry of claims is missing if there is one that is unfit. -/
theorem stops_expiryOf (claims : List (String × Json)) :
    Stops (expiryOf claims) ↔ ExpiryIsUnfit claims := by
  unfold expiryOf ExpiryIsUnfit
  cases (Json.object claims).member? "exp" with
  | none => simp
  | some j => simp [stops_ite, Value.stops_unixInstant]

/-- An unfit expiry is not told as a fault of the credential. -/
theorem expiryOf_failsWith (claims : List (String × Json)) :
    FailsWith (·.isCredential = false) (expiryOf claims) := by
  have hunix (v : Value) : FailsWith (·.isCredential = false) v.unixInstant := by
    refine (v.unixInstant_failsWith).mono fun fault h => ?_
    rcases h with hdata | rfl
    · cases fault <;> first | rfl | contradiction
    · rfl
  unfold expiryOf
  split
  · exact .ok _
  · exact .ite (fun _ => (hunix _).bind fun _ => .pure _) fun _ => .ok _

/-! ## Higher limits of nesting -/

section Higher

variable {depth more : Nat}

/-- The document in a token is read under a higher limit as it is under a lower one. -/
theorem documentOf_of_le (h : depth ≤ more) (token : List Char) :
    AgreeUnless (·.isNesting) (documentOf depth token) (documentOf more token) := by
  unfold documentOf
  split
  · exact .refl _
  · split
    · exact .refl _
    · exact Json.readBytes_of_le h _

/-- The claims of a token are read under a higher limit as they are under a lower one. -/
theorem claimsOf_of_le (h : depth ≤ more) (token : String) :
    AgreeUnless (∃ reason, · = .nesting reason) (claimsOf depth token) (claimsOf more token) := by
  unfold claimsOf
  rcases documentOf_of_le h token.toList with ⟨refusal, hread, hnesting⟩ | hread
  · rw [hread]
    cases refusal with
    | nesting reason => exact .inl ⟨_, rfl, reason, rfl⟩
    | invalid reason => cases hnesting
  · rw [hread]
    exact .refl _

/-- A credential that is not refused for the nesting of its claims is loaded under every higher
limit as well, and as the same credential; a fault stays the same, too. -/
theorem load_of_le (h : depth ≤ more) (homes : Homes) (files : Files) (path : Path) :
    AgreeUnless (∃ reason, · = .nesting reason) (load homes depth files path)
      (load homes more files path) := by
  unfold load
  refine (AgreeUnless.refl _).bind fun p => ?_
  split
  · exact .refl _
  · split
    · exact (AgreeUnless.refl _).bind fun token => (claimsOf_of_le h token).bind fun _ => .refl _
    · exact .refl _

end Higher

/-! ## Texts and files -/

/-- The text holds a token whose claims are nested too deep. -/
def Nests (depth : Nat) (s : String) : Prop :=
  ∃ token, tokenOf s = .ok token ∧ IsNested depth token

/-- The text holds claims with an unfit expiry. -/
def Misdates (depth : Nat) (s : String) : Prop :=
  ∃ token claims, tokenOf s = .ok token ∧ claimsOf depth token = .ok claims ∧ ExpiryIsUnfit claims

/-- Of the faults of a text, those of nesting and of the expiry are not told as faults of the
credential. -/
theorem escapes_parse_iff (depth : Nat) (s : String) :
    Escapes Fault.isCredential (parse depth s) ↔ Nests depth s ∨ Misdates depth s := by
  have hexpiry (claims : List (String × Json)) :
      Escapes Fault.isCredential (expiryOf claims >>= fun t =>
        pure ({ expiresAt := t } : Snapshot.Credential)) ↔ ExpiryIsUnfit claims := by
    rw [escapes_bind, (expiryOf_failsWith claims).escapes_iff, stops_expiryOf]
    simp
  unfold parse Nests Misdates
  rw [escapes_bind, or_iff_right (tokenOf_failsWith s).not_escapes, ← exists_or]
  refine exists_congr fun token => ?_
  simp only [escapes_bind, escapes_claimsOf_iff, hexpiry, and_or_left, exists_and_left]

/-- Why loading a credential has neither a result nor a fault of the credential. -/
inductive Unsound (homes : Homes) (depth : Nat) (files : Files) (path : Path) : Prop
  /-- The path begins at a home that is missing. -/
  | homeless (h : path.IsHomeless homes)
  /-- The path holds a character that none can hold. -/
  | refused {p : Path} (hpath : path.expand homes = .ok p) (h : Files.isRefused p)
  /-- The file holds bytes that are no text. -/
  | undecodable {p : Path} {content : List UInt8} {bytes : Text.Undecodable}
      (hpath : path.expand homes = .ok p) (hread : files.read p = .ok content)
      (h : Text.Utf8.decode content = .error bytes)
  /-- The claims in the file are nested too deep. -/
  | nested {p : Path} {content : List UInt8} {s : String}
      (hpath : path.expand homes = .ok p) (hread : files.read p = .ok content)
      (htext : Text.Utf8.decode content = .ok s) (h : Nests depth s)
  /-- The claims in the file have an expiry that is no time. -/
  | expiry {p : Path} {content : List UInt8} {s : String}
      (hpath : path.expand homes = .ok p) (hread : files.read p = .ok content)
      (htext : Text.Utf8.decode content = .ok s) (h : Misdates depth s)

/-- What is done with a path whose home is known. -/
def loadAt (depth : Nat) (files : Files) (p : Path) : Except Fault Snapshot.Credential :=
  match files.read p with
  | .error fault => .error (unreadable p fault)
  | .ok content =>
    match Text.Utf8.decode content with
    | .ok s => parse depth s
    | .error fault => .error (.value (.undecodable fault))

variable (homes : Homes) (depth : Nat) (files : Files)

/-- A credential is loaded where its path leads once the home is known. -/
theorem load_eq (path : Path) :
    load homes depth files path = path.expand homes >>= loadAt depth files := rfl

/-- The faults with which a known path is not told as one of the credential. -/
theorem escapes_loadAt_iff (p : Path) :
    Escapes Fault.isCredential (loadAt depth files p) ↔
      Files.isRefused p ∨ ∃ content, files.read p = .ok content ∧
        ((∃ bytes, Text.Utf8.decode content = .error bytes) ∨
          ∃ s, Text.Utf8.decode content = .ok s ∧ (Nests depth s ∨ Misdates depth s)) := by
  unfold loadAt
  by_cases hrefused : Files.isRefused p
  · -- Nothing is read, and the fault is passed on as it is.
    simp [hrefused, Files.read, unreadable, Fault.isCredential]
  · cases hread : files.read p with
    | error fault =>
      obtain ⟨cause, rfl⟩ := files.read_failsWith (by simpa using hrefused) fault hread
      simp [hrefused, unreadable, Fault.isCredential]
    | ok content =>
      cases hdecode : Text.Utf8.decode content with
      | error bytes => simp [hrefused, hdecode, Fault.isCredential]
      | ok s => simp [hrefused, hdecode, escapes_parse_iff]

/-- A fault that is not told as one of the credential is one of those that are unsound. -/
theorem escapes_load_iff (path : Path) :
    Escapes Fault.isCredential (load homes depth files path) ↔ Unsound homes depth files path := by
  rw [load_eq, escapes_bind, (path.expand_failsWith homes).escapes_iff, Path.stops_expand]
  -- Either the home is not known, or what happens is what happens at the path that was found.
  constructor
  · rintro (hless | ⟨p, hpath, h⟩)
    · exact .homeless hless
    · rcases (escapes_loadAt_iff depth files p).mp h with
        hrefused | ⟨content, hread, ⟨bytes, hbytes⟩ | ⟨s, htext, hnests | hdate⟩⟩
      · exact .refused hpath hrefused
      · exact .undecodable hpath hread hbytes
      · exact .nested hpath hread htext hnests
      · exact .expiry hpath hread htext hdate
  · intro h
    cases h with
    | homeless h => exact .inl h
    | refused hpath h =>
      exact .inr ⟨_, hpath, (escapes_loadAt_iff depth files _).mpr (.inl h)⟩
    | undecodable hpath hread h =>
      exact .inr ⟨_, hpath, (escapes_loadAt_iff depth files _).mpr (.inr ⟨_, hread, .inl ⟨_, h⟩⟩)⟩
    | nested hpath hread htext h =>
      exact .inr ⟨_, hpath,
        (escapes_loadAt_iff depth files _).mpr (.inr ⟨_, hread, .inr ⟨_, htext, .inl h⟩⟩)⟩
    | expiry hpath hread htext h =>
      exact .inr ⟨_, hpath,
        (escapes_loadAt_iff depth files _).mpr (.inr ⟨_, hread, .inr ⟨_, htext, .inr h⟩⟩)⟩

/-- Loading a credential gives a credential or a fault of the credential, whatever stands at the
path and whatever the file holds, except for what is unsound: a home that is missing, a path that
cannot be one, bytes that are no text, claims that are nested too deep, and an expiry that is no
time. This holds whatever homes are known, and whatever nesting can be read. -/
theorem load_outcome (path : Path) :
    (∃ c, load homes depth files path = .ok c) ∨
        (∃ text, load homes depth files path = .error (.credential text)) ↔
      ¬Unsound homes depth files path := by
  have hcredential (fault : Fault) : fault.isCredential ↔ ∃ text, fault = .credential text := by
    cases fault <;> simp [Fault.isCredential]
  rw [← escapes_load_iff, not_escapes_iff]
  simp [hcredential]

/-- A file of one byte that begins no character. -/
theorem load_outcome_undecodable :
    let homes : Homes := fun _ => none
    let files : Files := { entries := [(["user.creds"], .file [0xff])] }
    let path : Path := { names := ["user.creds"] }
    ¬((∃ c, load homes 1000 files path = .ok c) ∨
      ∃ text, load homes 1000 files path = .error (.credential text)) := by
  intro homes files path h
  refine (load_outcome homes 1000 files path).mp h ?_
  have hpath : path.expand homes = .ok path := rfl
  have hread : files.read path = .ok [0xff] := rfl
  exact .undecodable hpath hread rfl

end Credential

end Vigil
