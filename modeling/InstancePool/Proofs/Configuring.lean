import Mathlib.Data.List.DropRight
import InstancePool.Configuration
import InstancePool.Proofs.Traces

/-!
# Accepted configurations

Variables are written by hand, so what is taken from them is trimmed, and a blank value counts as none.
What a configuration holds once it was accepted is there to be used, then, with one exception: the secret
that comes from a file may be blank.

* `Text.Tidy`: a text with something in it and no blank at its ends; `Text.tidy_trim`, `Text.tidy_of_filled`:
  what trimming leaves;
* `Configuration.Sound`, `Configuration.Usable`: what can be counted on, without the secret and with it;
* `Configuration.assemble_sound`: that it can be counted on in what the variables are made into;
* `Configuration.accepted_usable_iff`: when an accepted configuration can be used.
-/

namespace InstancePool

/-! ## 1. Trimmed texts -/

namespace Text

/-- A text with something in it and no blank at either end. -/
structure Tidy (s : String) : Prop where
  filled : s ≠ ""
  begins : ∀ c ∈ s.toList.head?, isBlank c = false
  ends : ∀ c ∈ s.toList.getLast?, isBlank c = false

/-- **Trimming leaves a tidy text**, or nothing. -/
theorem tidy_trim {s : String} (filled : trim s ≠ "") : Tidy (trim s) := by
  have text : (trim s).toList = (s.toList.dropWhile isBlank).rdropWhile isBlank := String.toList_ofList
  have some : (s.toList.dropWhile isBlank).rdropWhile isBlank ≠ [] := by
    rw [← text]
    exact fun none => filled (String.toList_eq_nil_iff.mp none)
  constructor
  case filled => exact filled
  case begins =>
    -- What is cut off at the end leaves the first character alone.
    obtain ⟨rest, whole⟩ := List.rdropWhile_prefix isBlank (s.toList.dropWhile isBlank)
    intro c first
    have front : (s.toList.dropWhile isBlank).head? = Option.some c := by
      rw [← whole, List.head?_append, ← text, first]
      rfl
    have begun := List.head?_dropWhile_not isBlank s.toList
    rw [front] at begun
    exact begun
  case ends =>
    intro c last
    rw [text, List.getLast?_eq_some_getLast some] at last
    exact Option.some.inj last ▸ Bool.eq_false_iff.mpr (List.rdropWhile_last_not isBlank _ some)

theorem tidy_of_filled {s t : String} (h : filled s = some t) : Tidy t := by
  unfold filled at h
  dsimp only at h
  split at h
  · cases h
  · rename_i some
    cases h
    exact tidy_trim fun none => some (String.isEmpty_iff.mpr none)

end Text

theorem Text.lower_ne_empty {s : String} (filled : s ≠ "") : Text.lower s ≠ "" := by
  have some : ∀ c, Text.lowerChar c ≠ [] := by
    intro c
    unfold Text.lowerChar
    split
    · exact List.cons_ne_nil _ _
    · split
      · exact List.cons_ne_nil _ _
      · split <;> exact List.cons_ne_nil _ _
  intro none
  have none : Text.lowerFrom [] s.toList = [] := String.toList_ofList.symm.trans (congrArg String.toList none)
  cases text : s.toList with
  | nil => exact filled (String.toList_eq_nil_iff.mp text)
  | cons c cs =>
    rw [text] at none
    have here := (List.append_eq_nil_iff.mp none).1
    split at here
    · cases here
    · exact some c here

/-! ## 2. Parts of a configuration -/

namespace Configuration

variable {env : Environment} {secret : Option String}

theorem bind_eq_ok {α β ε : Type} {x : Except ε α} {f : α → Except ε β} {b : β} :
    (x >>= f) = .ok b ↔ ∃ a, x = .ok a ∧ f a = .ok b := by
  cases x with
  | ok a => exact ⟨fun ok => ⟨a, rfl, ok⟩, fun ⟨_, same, ok⟩ => by cases same; exact ok⟩
  | error e => exact ⟨nofun, nofun⟩

theorem tidy_of_variable {key value : String} (set : env.filled key = some value) : Text.Tidy value := by
  obtain ⟨_, -, filled⟩ := Option.bind_eq_some_iff.mp set
  exact Text.tidy_of_filled filled

theorem interval_of_waitsOf {waits : Waits} (accepted : waitsOf env = .ok waits) : 0 < waits.interval := by
  unfold waitsOf at accepted
  obtain ⟨timeout, -, accepted⟩ := bind_eq_ok.mp accepted
  obtain ⟨interval, -, accepted⟩ := bind_eq_ok.mp accepted
  obtain ⟨reloadTimeout, -, accepted⟩ := bind_eq_ok.mp accepted
  split at accepted
  · cases accepted
  · rename_i some
    cases accepted
    exact Nat.pos_of_ne_zero some

theorem tidy_of_listOf {text part : String} (member : part ∈ listOf text) : Text.Tidy part := by
  obtain ⟨_, -, filled⟩ := List.mem_filterMap.mp member
  exact Text.tidy_of_filled filled

/-- The login at the cloud is the one of two variables and of the secret, which a file or a third variable
    holds. -/
theorem cloudOf_eq_ok {login : Cloud} (accepted : cloudOf env secret = .ok (some login)) :
    env.filled "SOFTLAYER_USERNAME" = some login.username ∧
      secret.or (env.filled "SOFTLAYER_API_KEY") = some login.apiKey ∧
      login.endpoint = env.filled "SOFTLAYER_API_ENDPOINT" := by
  unfold cloudOf at accepted
  split at accepted
  · cases accepted
  · rename_i username named
    split at accepted
    · cases accepted
    · rename_i apiKey given
      cases accepted
      exact ⟨named, given, rfl⟩

/-! ## 3. What an accepted configuration holds -/

/-- What can be counted on in a configuration, the secret of its login apart. -/
structure Sound (c : Configuration) : Prop where
  provider : c.provider ≠ ""
  /-- The provider that needs a login has one. -/
  cloud : c.provider = "softlayer" → ∃ login, c.cloud = some login
  username : ∀ login ∈ c.cloud, Text.Tidy login.username
  endpoint : ∀ login ∈ c.cloud, ∀ url ∈ login.endpoint, Text.Tidy url
  interval : 0 < c.site.waits.interval
  registryUrl : ∀ url ∈ c.registryUrl, Text.Tidy url
  blobstore : ∀ url ∈ c.site.agent.blobstore, Text.Tidy url
  ntp : ∀ server ∈ c.site.agent.ntp, Text.Tidy server
  hostsFile : ∀ path ∈ c.hostsFile, Text.Tidy path

/-- A configuration of which all can be used. -/
structure Usable (c : Configuration) : Prop extends Sound c where
  apiKey : ∀ login ∈ c.cloud, Text.Tidy login.apiKey

variable {c : Configuration}

theorem assemble_sound (accepted : assemble env secret = .ok c) :
    Sound c ∧ cloudOf env secret = .ok c.cloud := by
  unfold assemble at accepted
  obtain ⟨cloud, served, accepted⟩ := bind_eq_ok.mp accepted
  split at accepted
  · cases accepted
  · rename_i provided
    obtain ⟨waits, paused, accepted⟩ := bind_eq_ok.mp accepted
    obtain ⟨credential, -, accepted⟩ := bind_eq_ok.mp accepted
    cases accepted
    refine ⟨?_, served⟩
    constructor
    case provider =>
      refine Text.lower_ne_empty ?_
      cases named : env.filled "VMPOOL_PROVIDER" with
      | none => decide
      | some provider => exact (tidy_of_variable named).filled
    case cloud =>
      intro needed
      cases cloud with
      | none => exact absurd ⟨needed, rfl⟩ provided
      | some login => exact ⟨login, rfl⟩
    case username =>
      rintro login rfl
      exact tidy_of_variable (cloudOf_eq_ok served).1
    case endpoint =>
      rintro login rfl url given
      exact tidy_of_variable ((cloudOf_eq_ok served).2.2 ▸ given)
    case interval => exact interval_of_waitsOf paused
    case registryUrl => exact fun _ => tidy_of_variable
    case blobstore => exact fun _ => tidy_of_variable
    case ntp =>
      cases named : env.filled "VMPOOL_NTP" with
      | none => nofun
      | some list => exact fun _ => tidy_of_listOf
    case hostsFile => exact fun _ => tidy_of_variable

section Runs

variable {σ : Type} {answer : Answering Files σ} {s : σ}

/-- What becomes of a configuration when the file of its secret is read so. -/
def opened (env : Environment) (path : String) : Except Files.Refusal String → Except String Configuration
  | .ok text => assemble env (some (Text.trim text))
  | .error _ => .error s!"reading SOFTLAYER_API_KEY_FILE {path}"

theorem read_filed {path : String} (filed : secretFile? env = some path) :
    read env = .ask (.read path) fun reply => .done (opened env path reply) := by
  unfold read
  rw [filed]
  exact congrArg (Program.ask _) (funext fun reply => by cases reply <;> rfl)

theorem run_read : (((read env).run answer).run s).1 = .ok
    (match secretFile? env with
    | none => assemble env none
    | some path => opened env path (answer (.read path) s).1) := by
  cases filed : secretFile? env with
  | none =>
    unfold read
    rw [filed]
    rfl
  | some path =>
    rw [read_filed filed]
    rfl

/-- A secret from a file is the one of the login. -/
theorem login_of_secretFile {path secret : String} {cloud : Option Cloud}
    (filed : secretFile? env = some path) (accepted : cloudOf env (some secret) = .ok cloud) :
    ∃ login, cloud = some login ∧ login.apiKey = secret := by
  obtain ⟨username, named, -⟩ := Option.bind_eq_some_iff.mp filed
  unfold cloudOf at accepted
  rw [named] at accepted
  cases accepted
  exact ⟨_, rfl, rfl⟩

/-- **An accepted configuration can be used** unless its secret comes from a file that is blank. All else
    can be used in any case. -/
theorem accepted_usable_iff (accepted : (((read env).run answer).run s).1 = .ok (.ok c)) :
    Sound c ∧ (Usable c ↔ ∀ path text, secretFile? env = some path →
      (answer (.read path) s).1 = .ok text → Text.trim text ≠ "") := by
  rw [run_read] at accepted
  have accepted := Except.ok.inj accepted
  cases filed : secretFile? env with
  | none =>
    rw [filed] at accepted
    obtain ⟨sound, served⟩ := assemble_sound accepted
    have keyed : ∀ login ∈ c.cloud, Text.Tidy login.apiKey := by
      intro login given
      rw [given] at served
      exact tidy_of_variable (cloudOf_eq_ok served).2.1
    exact ⟨sound, fun _ => nofun, fun _ => ⟨sound, keyed⟩⟩
  | some path =>
    rw [filed] at accepted
    dsimp only at accepted
    cases found : (answer (.read path) s).1 with
    | error refusal =>
      rw [found] at accepted
      cases accepted
    | ok text =>
      rw [found] at accepted
      obtain ⟨sound, served⟩ := assemble_sound accepted
      obtain ⟨login, given, secret⟩ := login_of_secretFile filed served
      refine ⟨sound, fun usable path' text' filed' found' => ?_, fun filled => ⟨sound, ?_⟩⟩
      · cases filed'
        cases found.symm.trans found'
        exact secret ▸ (usable.apiKey login given).filled
      · rintro login' given'
        cases given.symm.trans given'
        rw [secret]
        exact Text.tidy_trim (filled path text rfl found)

end Runs

/-- Variables that name a file for the secret, with a list of time servers. -/
def Sample.variables : Environment :=
  .ofList [("SOFTLAYER_USERNAME", " ops "), ("SOFTLAYER_API_KEY_FILE", "key"),
    ("VMPOOL_NTP", "0.pool.ntp.org, ,1.pool.ntp.org ")]

/-- The files in which the secret has a text. -/
def Sample.filesWith (secret : String) : Files.Tree := ({} : Files.Tree).put ["key"] (.file (some secret))

/-- What these variables configure. -/
def Sample.configuration (secret : String) : Configuration where
  provider := "softlayer"
  cloud := some ⟨"ops", secret, none⟩
  registryUrl := none
  site := { agent := { ntp := ["0.pool.ntp.org", "1.pool.ntp.org"] } }
  hostsFile := none

/-- A user name and a secret with blanks around them are trimmed, and the blank time server is left out. -/
theorem accepted_usable_iff_where_padded :
    (((read Sample.variables).run Files.Tree.answer).run (Sample.filesWith " secret\n")).1 =
        .ok (.ok (Sample.configuration "secret")) ∧
      Sound (Sample.configuration "secret") ∧ Usable (Sample.configuration "secret") := by
  have accepted : (((read Sample.variables).run Files.Tree.answer).run (Sample.filesWith " secret\n")).1 =
      .ok (.ok (Sample.configuration "secret")) := rfl
  obtain ⟨sound, usable⟩ := accepted_usable_iff accepted
  refine ⟨accepted, sound, usable.mpr ?_⟩
  rintro path text filed found
  cases filed.symm.trans (rfl : secretFile? Sample.variables = some "key")
  cases found.symm.trans (rfl : (Files.Tree.answer (.read "key") (Sample.filesWith " secret\n")).1 =
    .ok " secret\n")
  decide

/-- A file that holds nothing but blanks is accepted as a secret, and the login has none. -/
theorem blank_secret_is_accepted :
    (((read Sample.variables).run Files.Tree.answer).run (Sample.filesWith " \n")).1 =
        .ok (.ok (Sample.configuration "")) ∧
      ¬Usable (Sample.configuration "") :=
  ⟨rfl, fun usable => (usable.apiKey _ rfl).filled rfl⟩

end Configuration

end InstancePool
