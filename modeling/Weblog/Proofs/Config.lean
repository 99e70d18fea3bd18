import Weblog.Config.Basic
import Weblog.Proofs.Text.Numeral

/-!
# Weblog.Proofs.Config

The configuration that settings lead to.

* `Setting`: the settings, with their keys and the kinds of their values. `Kind.Reads`: what a text
  stands for as a value of a kind.
* `Setting.Taken`: a configuration has the value that the text under the key of a setting stands for,
  and where there is no text the default.
* `Outcome`, `ofLookup_eq_iff`: there is a configuration with all settings taken that is sound, or the
  first setting that cannot be read is the error, or what is wrong between the settings.
* `ofLookup_checked`: when settings lead to a configuration, and what becomes of each of them.
-/

namespace Weblog

namespace Text

/-- The texts that are read in a range: numerals of its members, without a minus sign where the range
has no negative members. -/
theorem ranged?_eq_some_iff_numeral {r : IntRange} {s : String} {i : Int} :
    ranged? r s = some i ↔ (0 ≤ r.least → s.toList.head? ≠ some '-') ∧
      Numeral s.toList i ∧ r.least ≤ i ∧ i ≤ r.greatest := by
  unfold ranged?
  split
  · rename_i hminus
    exact ⟨nofun, fun h => absurd hminus.2 (h.1 hminus.1)⟩
  · rename_i hminus
    rw [Option.filter_eq_some_iff, int?_eq_some_iff]
    simp only [IntRange.has, Bool.and_eq_true, decide_eq_true_eq]
    exact ⟨fun h => ⟨fun hle hhead => hminus ⟨hle, hhead⟩, h⟩, And.right⟩

theorem Numeral.unique {cs : List Char} {i j : Int} (hi : Numeral cs i) (hj : Numeral cs j) :
    i = j := by
  rw [← int?_eq_some_iff] at hi hj
  exact Option.some.inj (hi.symm.trans hj)

end Text

namespace Config

/-- What kind of value a setting has. -/
inductive Kind where
  | text
  | truth
  | number (range : Text.IntRange)
  deriving DecidableEq, Repr

/-- A value of a setting. -/
inductive Value where
  | text (s : String)
  | truth (b : Bool)
  | number (i : Int)
  deriving DecidableEq, Repr

/-- What a text stands for as a value of a kind. Texts are taken as they are; of all others the white
space at their ends does not count. -/
inductive Kind.Reads : Kind → String → Value → Prop
  | text (s : String) : Reads .text s (.text s)
  | yes {s : String} : Text.trim s = "true" → Reads .truth s (.truth true)
  | no {s : String} : Text.trim s = "false" → Reads .truth s (.truth false)
  | number {r : Text.IntRange} {s : String} {i : Int} :
      Text.Numeral (Text.trim s).toList i → r.least ≤ i → i ≤ r.greatest →
      (0 ≤ r.least → (Text.trim s).toList.head? ≠ some '-') → Reads (.number r) s (.number i)

theorem Kind.Reads.unique {k : Kind} {s : String} {v w : Value} (hv : k.Reads s v)
    (hw : k.Reads s w) : v = w := by
  cases hv with
  | text => cases hw; rfl
  | yes hyes =>
    cases hw with
    | yes _ => rfl
    | no hno =>
      rw [hyes] at hno
      exact absurd hno (by decide)
  | no hno =>
    cases hw with
    | yes hyes =>
      rw [hyes] at hno
      exact absurd hno (by decide)
    | no _ => rfl
  | number hi _ _ _ =>
    cases hw with
    | number hj _ _ _ => rw [hi.unique hj]

/-- The settings, in the order in which they are read. -/
inductive Setting where
  | dbHost
  | dbPort
  | dbUser
  | dbPassword
  | dbName
  | dbCharset
  | dbAutocommit
  | dbMaxSize
  | dbMinSize
  | sessionCookie
  | sessionSecret
  | sessionMaxAge
  | bind
  | templateDir
  | staticDir
  deriving DecidableEq, Repr

namespace Setting

/-- The name under which a setting is looked up. -/
def key : Setting → String
  | dbHost => "BLOG_DB_HOST"
  | dbPort => "BLOG_DB_PORT"
  | dbUser => "BLOG_DB_USER"
  | dbPassword => "BLOG_DB_PASSWORD"
  | dbName => "BLOG_DB_NAME"
  | dbCharset => "BLOG_DB_CHARSET"
  | dbAutocommit => "BLOG_DB_AUTOCOMMIT"
  | dbMaxSize => "BLOG_DB_MAX_SIZE"
  | dbMinSize => "BLOG_DB_MIN_SIZE"
  | sessionCookie => "BLOG_SESSION_COOKIE"
  | sessionSecret => "BLOG_SESSION_SECRET"
  | sessionMaxAge => "BLOG_SESSION_MAX_AGE"
  | bind => "BLOG_BIND"
  | templateDir => "BLOG_TEMPLATE_DIR"
  | staticDir => "BLOG_STATIC_DIR"

def kind : Setting → Kind
  | dbPort => .number .u16
  | dbAutocommit => .truth
  | dbMaxSize => .number .u32
  | dbMinSize => .number .u32
  | sessionMaxAge => .number .i64
  | _ => .text

/-- The settings that are not texts, in the order in which they are read. -/
def parsed : List Setting := [dbPort, dbAutocommit, dbMaxSize, dbMinSize, sessionMaxAge]

/-- The value of a setting in a configuration. -/
def value (c : AppConfig) : Setting → Value
  | dbHost => .text c.db.host
  | dbPort => .number c.db.port
  | dbUser => .text c.db.user
  | dbPassword => .text c.db.password
  | dbName => .text c.db.database
  | dbCharset => .text c.db.charset
  | dbAutocommit => .truth c.db.autocommit
  | dbMaxSize => .number c.db.maxSize
  | dbMinSize => .number c.db.minSize
  | sessionCookie => .text c.session.cookieName
  | sessionSecret => .text c.session.secret
  | sessionMaxAge => .number c.session.maxAge
  | bind => .text c.server.bind
  | templateDir => .text c.server.templateDir
  | staticDir => .text c.server.staticDir

def default (s : Setting) : Value := s.value {}

theorem key_injective {s t : Setting} (h : s.key = t.key) : s = t := by
  cases s <;> cases t <;> simp [key] at h ⊢

/-- A configuration is made up of the values of its settings. -/
theorem ext {c d : AppConfig} (h : ∀ s : Setting, s.value c = s.value d) : c = d := by
  obtain ⟨⟨_, _, _, _, _, _, _, _, _⟩, ⟨_, _, _⟩, ⟨_, _, _⟩⟩ := c
  obtain ⟨⟨_, _, _, _, _, _, _, _, _⟩, ⟨_, _, _⟩, ⟨_, _, _⟩⟩ := d
  cases h dbHost; cases h dbPort; cases h dbUser; cases h dbPassword; cases h dbName
  cases h dbCharset; cases h dbAutocommit; cases h dbMaxSize; cases h dbMinSize
  cases h sessionCookie; cases h sessionSecret; cases h sessionMaxAge
  cases h bind; cases h templateDir; cases h staticDir
  rfl

end Setting

/-- What stands for a setting: the value of the text under its key, and without one the default. -/
def Stands (lookup : String → Option String) (key : String) (k : Kind) (default v : Value) : Prop :=
  match lookup key with
  | none => v = default
  | some text => k.Reads text v

/-- A text under a key that is no value of a kind. -/
def Unread (lookup : String → Option String) (key : String) (k : Kind) (text : String) : Prop :=
  lookup key = some text ∧ ∀ v, ¬ k.Reads text v

namespace Setting

variable (lookup : String → Option String) (c : AppConfig) (s : Setting)

/-- A configuration has the value that stands for a setting. -/
def Taken : Prop := Stands lookup s.key s.kind s.default (s.value c)

/-- A text that is found for a setting can be read. -/
def Readable : Prop := ∀ text, lookup s.key = some text → ∃ v, s.kind.Reads text v

variable {lookup c s}

theorem readable_of_stands {default v : Value} (h : Stands lookup s.key s.kind default v) :
    s.Readable lookup := by
  intro text htext
  unfold Stands at h
  rw [htext] at h
  exact ⟨v, h⟩

theorem Taken.readable (h : s.Taken lookup c) : s.Readable lookup := readable_of_stands h

/-- The text under its key alone decides about a setting. -/
theorem Taken.value_eq {lookup' : String → Option String} {c' : AppConfig} (h : s.Taken lookup c)
    (h' : s.Taken lookup' c') (hkey : lookup s.key = lookup' s.key) : s.value c = s.value c' := by
  unfold Taken Stands at h h'
  rw [← hkey] at h'
  cases hfound : lookup s.key with
  | none =>
    rw [hfound] at h h'
    exact h.trans h'.symm
  | some text =>
    rw [hfound] at h h'
    exact h.unique h'

end Setting

/-- A pool that can hold a connection, with its bounds in order, and a secret. -/
structure Sound (c : AppConfig) : Prop where
  connections : 1 ≤ c.db.maxSize
  bounds : c.db.minSize ≤ c.db.maxSize
  secret : c.session.secret ≠ ""

/-- What is wrong between settings, the pool before the secret. -/
inductive Unsound (c : AppConfig) : ConfigError → Prop
  | connections : c.db.maxSize = 0 → Unsound c (.validation "db max_size must be at least 1")
  | bounds : 1 ≤ c.db.maxSize → c.db.maxSize < c.db.minSize →
      Unsound c (.validation ("db min_size " ++ toString c.db.minSize ++ " exceeds max_size " ++
        toString c.db.maxSize))
  | secret : 1 ≤ c.db.maxSize → c.db.minSize ≤ c.db.maxSize → c.session.secret = "" →
      Unsound c (.validation "session secret must not be empty")

theorem Unsound.not_sound {c : AppConfig} {e : ConfigError} (h : Unsound c e) : ¬ Sound c := by
  intro hsound
  cases h with
  | connections hmax =>
    have := hsound.connections
    omega
  | bounds _ hlt =>
    have := hsound.bounds
    omega
  | secret _ _ hsecret => exact hsound.secret hsecret

theorem Unsound.unique {c : AppConfig} {d e : ConfigError} (hd : Unsound c d) (he : Unsound c e) :
    d = e := by
  cases hd <;> cases he <;> first | rfl | omega

/-- The check of a configuration whose pool has no negative bound. -/
theorem validate_spec {c : AppConfig} (hmax : 0 ≤ c.db.maxSize) :
    (c.validate = .ok () ∧ Sound c) ∨ ∃ e, c.validate = .error e ∧ Unsound c e := by
  unfold AppConfig.validate
  split
  · rename_i hzero
    exact .inr ⟨_, rfl, .connections hzero⟩
  · rename_i hzero
    split
    · rename_i hlt
      refine .inr ⟨_, rfl, ?_⟩
      rw [Text.ofInt_eq_toString, Text.ofInt_eq_toString]
      exact .bounds (by omega) hlt
    · rename_i hle
      split
      · rename_i hempty
        exact .inr ⟨_, rfl, .secret (by omega) (by omega) (String.isEmpty_iff.1 hempty)⟩
      · rename_i hnonempty
        exact .inl ⟨rfl, by omega, by omega, fun h => hnonempty (String.isEmpty_iff.2 h)⟩

/-- What settings lead to. -/
inductive Outcome (lookup : String → Option String) : Except ConfigError AppConfig → Prop
  /-- The first setting that cannot be read is the error, with its text as it was found. -/
  | unread {before after : List Setting} {s : Setting} {text : String} :
      Setting.parsed = before ++ s :: after → (∀ r ∈ before, r.Readable lookup) →
      Unread lookup s.key s.kind text → Outcome lookup (.error (.invalidValue s.key text))
  | unsound {c : AppConfig} {e : ConfigError} :
      (∀ s : Setting, s.Taken lookup c) → Unsound c e → Outcome lookup (.error e)
  | sound {c : AppConfig} : (∀ s : Setting, s.Taken lookup c) → Sound c → Outcome lookup (.ok c)

section Reading

variable {lookup : String → Option String} {key : String}

theorem stands_textSetting (default : String) :
    Stands lookup key .text (.text default) (.text (textSetting lookup key default)) := by
  unfold Stands textSetting
  cases lookup key with
  | none => rfl
  | some text => exact .text text

/-- A setting is read as the value that stands for it, and where it cannot be read that is the
error. -/
theorem readSetting_spec {α : Type} {read : String → Option α} {default : α} {k : Kind}
    (wrap : α → Value) (hread : ∀ text a, read (Text.trim text) = some a → k.Reads text (wrap a))
    (hreads : ∀ text v, k.Reads text v → ∃ a, read (Text.trim text) = some a) :
    (∃ a, readSetting lookup key read default = .ok a ∧
      Stands lookup key k (wrap default) (wrap a)) ∨
    ∃ text, readSetting lookup key read default = .error (.invalidValue key text) ∧
      Unread lookup key k text := by
  unfold readSetting Stands Unread
  cases lookup key with
  | none => exact .inl ⟨default, rfl, rfl⟩
  | some text =>
    cases hvalue : read (Text.trim text) with
    | some a => exact .inl ⟨a, by simp [hvalue], hread text a hvalue⟩
    | none =>
      refine .inr ⟨text, by simp [hvalue], rfl, fun v hv => ?_⟩
      obtain ⟨a, ha⟩ := hreads text v hv
      rw [hvalue] at ha
      cases ha

theorem readSetting_number (r : Text.IntRange) (default : Int) :
    (∃ i, readSetting lookup key (Text.ranged? r) default = .ok i ∧
      Stands lookup key (.number r) (.number default) (.number i)) ∨
    ∃ text, readSetting lookup key (Text.ranged? r) default = .error (.invalidValue key text) ∧
      Unread lookup key (.number r) text := by
  refine readSetting_spec .number ?_ ?_
  · intro text i h
    obtain ⟨hsign, hnumeral, hleast, hgreatest⟩ := Text.ranged?_eq_some_iff_numeral.1 h
    exact .number hnumeral hleast hgreatest hsign
  · intro text v h
    cases h with
    | number hnumeral hleast hgreatest hsign =>
      exact ⟨_, Text.ranged?_eq_some_iff_numeral.2 ⟨hsign, hnumeral, hleast, hgreatest⟩⟩

theorem readSetting_truth (default : Bool) :
    (∃ b, readSetting lookup key readTruth default = .ok b ∧
      Stands lookup key .truth (.truth default) (.truth b)) ∨
    ∃ text, readSetting lookup key readTruth default = .error (.invalidValue key text) ∧
      Unread lookup key .truth text := by
  refine readSetting_spec .truth ?_ ?_
  · intro text b h
    unfold readTruth at h
    split at h
    · rename_i hyes
      cases h
      exact .yes hyes
    · split at h
      · rename_i hno
        cases h
        exact .no hno
      · cases h
  · intro text v h
    cases h with
    | yes hyes => exact ⟨true, by rw [readTruth, if_pos hyes]⟩
    | no hno => exact ⟨false, by rw [readTruth, hno]; rfl⟩

/-- What stands for a number of a range is one of its members, if the default is. -/
theorem Stands.nonneg {r : Text.IntRange} {d i : Int} (hr : 0 ≤ r.least) (hd : 0 ≤ d)
    (h : Stands lookup key (.number r) (.number d) (.number i)) : 0 ≤ i := by
  unfold Stands at h
  split at h
  · cases h
    exact hd
  · cases h with
    | number _ hleast _ _ => omega

end Reading

/-- The configuration of the numbers and truth values that were read, with its texts. -/
def assemble (lookup : String → Option String) (port : Int) (autocommit : Bool)
    (maxSize minSize maxAge : Int) : AppConfig :=
  { db :=
      { host := textSetting lookup "BLOG_DB_HOST" "localhost"
        port := port
        user := textSetting lookup "BLOG_DB_USER" "www-data"
        password := textSetting lookup "BLOG_DB_PASSWORD" "www-data"
        database := textSetting lookup "BLOG_DB_NAME" "awesome"
        charset := textSetting lookup "BLOG_DB_CHARSET" "utf8"
        autocommit := autocommit
        maxSize := maxSize
        minSize := minSize }
    session :=
      { cookieName := textSetting lookup "BLOG_SESSION_COOKIE" "awesession"
        secret := textSetting lookup "BLOG_SESSION_SECRET" "Awesome"
        maxAge := maxAge }
    server :=
      { bind := textSetting lookup "BLOG_BIND" "127.0.0.1:9000"
        templateDir := textSetting lookup "BLOG_TEMPLATE_DIR" "templates"
        staticDir := textSetting lookup "BLOG_STATIC_DIR" "static" } }

theorem ofLookup_eq (lookup : String → Option String) :
    AppConfig.ofLookup lookup =
      (readSetting lookup "BLOG_DB_PORT" (Text.ranged? .u16) 5432).bind fun port =>
      (readSetting lookup "BLOG_DB_AUTOCOMMIT" readTruth true).bind fun autocommit =>
      (readSetting lookup "BLOG_DB_MAX_SIZE" (Text.ranged? .u32) 10).bind fun maxSize =>
      (readSetting lookup "BLOG_DB_MIN_SIZE" (Text.ranged? .u32) 1).bind fun minSize =>
      (readSetting lookup "BLOG_SESSION_MAX_AGE" (Text.ranged? .i64) 86400).bind fun maxAge =>
      let c := assemble lookup port autocommit maxSize minSize maxAge
      c.validate.bind fun _ => .ok c := rfl

/-- A setting that is read, and what follows with its value: where it cannot be read, it is the first
one, and otherwise the settings up to it can be. -/
theorem Outcome.bind {lookup : String → Option String} {α : Type} {wrap : α → Value} {s : Setting}
    {before after : List Setting} {x : Except ConfigError α}
    {f : α → Except ConfigError AppConfig} (hparsed : Setting.parsed = before ++ s :: after)
    (hbefore : ∀ r ∈ before, r.Readable lookup)
    (hread : (∃ a, x = .ok a ∧ Stands lookup s.key s.kind s.default (wrap a)) ∨
      ∃ text, x = .error (.invalidValue s.key text) ∧ Unread lookup s.key s.kind text)
    (hnext : ∀ a, Stands lookup s.key s.kind s.default (wrap a) →
      (∀ r ∈ before ++ [s], r.Readable lookup) → Outcome lookup (f a)) :
    Outcome lookup (x.bind f) := by
  rcases hread with ⟨a, rfl, hstands⟩ | ⟨text, rfl, hunread⟩
  · refine hnext a hstands ?_
    intro r hr
    rcases List.mem_append.1 hr with hr | hr
    · exact hbefore r hr
    · obtain rfl := List.mem_singleton.1 hr
      exact Setting.readable_of_stands hstands
  · exact .unread hparsed hbefore hunread

theorem outcome_ofLookup (lookup : String → Option String) :
    Outcome lookup (AppConfig.ofLookup lookup) := by
  rw [ofLookup_eq]
  have hfirst : ∀ s ∈ ([] : List Setting), s.Readable lookup := nofun
  refine Outcome.bind (s := .dbPort) rfl hfirst (readSetting_number .u16 5432) ?_
  intro port hport hread
  refine Outcome.bind (s := .dbAutocommit) rfl hread (readSetting_truth true) ?_
  intro autocommit hautocommit hread
  refine Outcome.bind (s := .dbMaxSize) rfl hread (readSetting_number .u32 10) ?_
  intro maxSize hmax hread
  refine Outcome.bind (s := .dbMinSize) rfl hread (readSetting_number .u32 1) ?_
  intro minSize hmin hread
  refine Outcome.bind (s := .sessionMaxAge) rfl hread (readSetting_number .i64 86400) ?_
  intro maxAge hage _
  have htaken : ∀ s : Setting,
      s.Taken lookup (assemble lookup port autocommit maxSize minSize maxAge) := by
    intro s
    cases s with
    | dbPort => exact hport
    | dbAutocommit => exact hautocommit
    | dbMaxSize => exact hmax
    | dbMinSize => exact hmin
    | sessionMaxAge => exact hage
    | _ => exact stands_textSetting _
  have hnonneg : 0 ≤ maxSize := Stands.nonneg (r := .u32) (by decide) (by decide) hmax
  rcases validate_spec (c := assemble lookup port autocommit maxSize minSize maxAge) hnonneg with
    ⟨hvalid, hsound⟩ | ⟨e, hinvalid, hunsound⟩
  · simp only [Except.bind, hvalid]
    exact .sound htaken hsound
  · simp only [Except.bind, hinvalid]
    exact .unsound htaken hunsound

section Unique

variable {lookup : String → Option String}

theorem Unread.not_readable {s : Setting} {text : String} (h : Unread lookup s.key s.kind text) :
    ¬ s.Readable lookup := by
  intro hreadable
  obtain ⟨v, hv⟩ := hreadable text h.1
  exact h.2 v hv

theorem taken_unique {c d : AppConfig} (hc : ∀ s : Setting, s.Taken lookup c)
    (hd : ∀ s : Setting, s.Taken lookup d) : c = d :=
  Setting.ext fun s => (hc s).value_eq (hd s) rfl

/-- The first setting of a list that cannot be read is one. -/
theorem first_unread_unique {before after before' after' : List Setting} {s t : Setting}
    {text text' : String} (h : before ++ s :: after = before' ++ t :: after')
    (hbefore : ∀ r ∈ before, r.Readable lookup) (hbefore' : ∀ r ∈ before', r.Readable lookup)
    (hs : Unread lookup s.key s.kind text) (ht : Unread lookup t.key t.kind text') :
    s = t ∧ text = text' := by
  have hsame : s = t := by
    induction before generalizing before' with
    | nil =>
      cases before' with
      | nil => exact List.head_eq_of_cons_eq h
      | cons r before' =>
        obtain rfl : s = r := List.head_eq_of_cons_eq h
        exact absurd (hbefore' s List.mem_cons_self) hs.not_readable
    | cons r before ih =>
      cases before' with
      | nil =>
        obtain rfl : r = t := List.head_eq_of_cons_eq h
        exact absurd (hbefore r List.mem_cons_self) ht.not_readable
      | cons r' before' =>
        exact ih (List.tail_eq_of_cons_eq h) (fun q hq => hbefore q (List.mem_cons_of_mem r hq))
          fun q hq => hbefore' q (List.mem_cons_of_mem r' hq)
  subst hsame
  exact ⟨rfl, Option.some.inj (hs.1.symm.trans ht.1)⟩

theorem Outcome.unique {x y : Except ConfigError AppConfig} (hx : Outcome lookup x)
    (hy : Outcome lookup y) : x = y := by
  cases hx with
  | unread hparsed hbefore hs =>
    cases hy with
    | unread hparsed' hbefore' ht =>
      obtain ⟨rfl, rfl⟩ := first_unread_unique (hparsed.symm.trans hparsed') hbefore hbefore' hs ht
      rfl
    | unsound htaken _ => exact absurd (htaken _).readable hs.not_readable
    | sound htaken _ => exact absurd (htaken _).readable hs.not_readable
  | unsound htaken hunsound =>
    cases hy with
    | unread _ _ ht => exact absurd (htaken _).readable ht.not_readable
    | unsound htaken' hunsound' =>
      obtain rfl := taken_unique htaken htaken'
      rw [hunsound.unique hunsound']
    | sound htaken' hsound =>
      obtain rfl := taken_unique htaken htaken'
      exact absurd hsound hunsound.not_sound
  | sound htaken hsound =>
    cases hy with
    | unread _ _ ht => exact absurd (htaken _).readable ht.not_readable
    | unsound htaken' hunsound =>
      obtain rfl := taken_unique htaken htaken'
      exact absurd hsound hunsound.not_sound
    | sound htaken' _ => rw [taken_unique htaken htaken']

/-- The outcome of settings is the one that they lead to. -/
theorem ofLookup_eq_iff {out : Except ConfigError AppConfig} :
    AppConfig.ofLookup lookup = out ↔ Outcome lookup out :=
  ⟨fun h => h ▸ outcome_ofLookup lookup, (outcome_ofLookup lookup).unique⟩

/-- Settings of which each can be read lead to one configuration, whether it is sound or not. -/
theorem exists_taken (h : ∀ s ∈ Setting.parsed, s.Readable lookup) :
    ∃ c, (∀ s : Setting, s.Taken lookup c) ∧
      (AppConfig.ofLookup lookup = .ok c ∧ Sound c ∨
        ∃ e, AppConfig.ofLookup lookup = .error e ∧ Unsound c e) := by
  have houtcome := outcome_ofLookup lookup
  generalize AppConfig.ofLookup lookup = out at houtcome
  cases houtcome with
  | @unread before after s text hparsed _ hs =>
    have hmem : s ∈ Setting.parsed := hparsed ▸ List.mem_append_right before List.mem_cons_self
    exact absurd (h s hmem) hs.not_readable
  | unsound htaken hunsound => exact ⟨_, htaken, .inr ⟨_, rfl, hunsound⟩⟩
  | sound htaken hsound => exact ⟨_, htaken, .inl ⟨rfl, hsound⟩⟩

end Unique

/-- For every lookup: there is a configuration if and only if each text that is found for a number or a
truth value can be read and what they lead to is sound. Each setting then has the value of its own key,
or its default where the key is not found; settings have keys of their own, and the text under its key
alone decides about a setting. Otherwise the error names the first setting in order that cannot be
read, with its text as it was found, and only where each can be read is it about what is wrong between
settings. -/
theorem ofLookup_checked (lookup : String → Option String) :
    ((∃ c, AppConfig.ofLookup lookup = .ok c) ↔
      (∀ s ∈ Setting.parsed, s.Readable lookup) ∧
        ∀ c, (∀ s : Setting, s.Taken lookup c) → Sound c) ∧
    (∀ c, AppConfig.ofLookup lookup = .ok c → (∀ s : Setting, s.Taken lookup c) ∧ Sound c) ∧
    Function.Injective Setting.key ∧
    (∀ lookup' c c' (s : Setting), AppConfig.ofLookup lookup = .ok c →
      AppConfig.ofLookup lookup' = .ok c' → lookup s.key = lookup' s.key → s.value c = s.value c') ∧
    (∀ e, AppConfig.ofLookup lookup = .error e ↔
      (∃ before s after text, Setting.parsed = before ++ s :: after ∧
        (∀ r ∈ before, r.Readable lookup) ∧ Unread lookup s.key s.kind text ∧
        e = .invalidValue s.key text) ∨
      ((∀ s ∈ Setting.parsed, s.Readable lookup) ∧
        ∃ c, (∀ s : Setting, s.Taken lookup c) ∧ Unsound c e)) := by
  have hok : ∀ {lookup : String → Option String} {c : AppConfig},
      AppConfig.ofLookup lookup = .ok c → (∀ s : Setting, s.Taken lookup c) ∧ Sound c := by
    intro lookup c h
    cases ofLookup_eq_iff.1 h with
    | sound htaken hsound => exact ⟨htaken, hsound⟩
  refine ⟨⟨?readable, ?found⟩, fun c => hok, fun s t => Setting.key_injective, ?alone, ?error⟩
  case readable =>
    rintro ⟨c, h⟩
    obtain ⟨htaken, hsound⟩ := hok h
    refine ⟨fun s _ => (htaken s).readable, fun d hd => ?_⟩
    rwa [taken_unique hd htaken]
  case found =>
    rintro ⟨hreadable, hall⟩
    obtain ⟨c, htaken, ⟨hc, -⟩ | ⟨e, -, hunsound⟩⟩ := exists_taken hreadable
    · exact ⟨c, hc⟩
    · exact absurd (hall c htaken) hunsound.not_sound
  case alone =>
    intro lookup' c c' s h h' hkey
    exact ((hok h).1 s).value_eq ((hok h').1 s) hkey
  case error =>
    intro e
    rw [ofLookup_eq_iff]
    constructor
    · intro h
      cases h with
      | unread hparsed hbefore hs => exact .inl ⟨_, _, _, _, hparsed, hbefore, hs, rfl⟩
      | unsound htaken hunsound =>
        exact .inr ⟨fun s _ => (htaken s).readable, _, htaken, hunsound⟩
    · rintro (⟨before, s, after, text, hparsed, hbefore, hs, rfl⟩ | ⟨-, c, htaken, hunsound⟩)
      · exact .unread hparsed hbefore hs
      · exact .unsound htaken hunsound

/-- A port with a sign and blanks around it beside no port: only the port differs. -/
theorem ofLookup_checked_port :
    AppConfig.ofLookup (fun key => if key = "BLOG_DB_PORT" then some " +6543\t" else none) =
      .ok { db := { port := 6543 } } ∧
    AppConfig.ofLookup (fun _ => none) = .ok {} ∧
    ∀ s : Setting, s ≠ .dbPort → s.value { db := { port := 6543 } } = s.value {} := by
  have hport : AppConfig.ofLookup (fun key => if key = "BLOG_DB_PORT" then some " +6543\t" else none) =
      .ok { db := { port := 6543 } } := rfl
  have hnone : AppConfig.ofLookup (fun _ => none) = .ok {} := rfl
  refine ⟨hport, hnone, fun s hs => ?_⟩
  obtain ⟨-, -, hkeys, halone, -⟩ :=
    ofLookup_checked fun key => if key = "BLOG_DB_PORT" then some " +6543\t" else none
  refine halone (fun _ => none) _ _ s hport hnone ?_
  exact if_neg fun hkey => hs (hkeys (show s.key = Setting.dbPort.key from hkey))

end Config
end Weblog
