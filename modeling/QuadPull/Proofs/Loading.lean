import QuadPull.Proofs.SettingValues
import QuadPull.Settings.Connection
import QuadPull.Settings.Lookups

namespace QuadPull

def Number.Double.IsPositive : Number.Double → Prop
  | .nan => False
  | .infinity negative => negative = false
  | .finite negative mantissa _ _ => negative = false ∧ mantissa ≠ 0

namespace Settings

/-- The outcome is of the kind that is asked for, or a fault of the settings. -/
def Settles {α : Type} (valid : α → Prop) : Except Error α → Prop
  | .ok settings => valid settings
  | .error e => ∃ fault, e = .settings fault

def ofTexts (environment : List (String × String)) : List (String × Value) :=
  environment.map fun e => (e.1, .text e.2)

end Settings

namespace LookupSettings

def IsValid (s : LookupSettings) : Prop := s.faults = .ok [] ∧ ∃ n : Int, s.maxConcurrent = .int n ∧ 1 ≤ n

def limitOf (fields : List (String × Value)) : Value :=
  Settings.valueOr fields "max_concurrent_lookups" (.int 8)

/-- The outcomes that are neither valid settings nor a fault of them (`ConfigError`). -/
inductive Strays (fields : List (String × Value)) : Except Error LookupSettings → Prop
  | infinite {negative : Bool} {object : Option Nat}
      (limit : limitOf fields = .double (.infinity negative) object) :
      Strays fields (.error .overflow)
  | unshown (long : (limitOf fields).isWritable = false) (other : ∀ n, limitOf fields ≠ .int n) :
      Strays fields (.error .numberTooLong)

end LookupSettings

namespace ConnectionSettings

def IsValid (s : ConnectionSettings) : Prop :=
  s.faults = .ok [] ∧ (∃ url, s.url = .text url ∧ webUrl url = true) ∧
    ∃ d object, s.timeout = .double d object ∧ d.IsPositive

def timeoutOf (fields : List (String × Value)) : Value :=
  Settings.valueOr fields "timeout_seconds" (.double (.ofRatio false 30 1))

def headersOf (fields : List (String × Value)) : Value := Settings.valueOr fields "headers" (.record [])

def made (fields : List (String × Value)) (url : Value) (timeout : Number.Double)
    (headers : List (Value × Value)) : ConnectionSettings where
  url
  timeout := .double timeout
  token := Settings.valueOr fields "auth_token" .absent
  headers := .list (headers.map fun h => .tuple [h.1, h.2])

inductive Strays (fields : List (String × Value)) : Except Error ConnectionSettings → Prop
  | large {url : Value} {n : Int} (named : fields.lookup "url" = some url)
      (timeout : timeoutOf fields = .int n) (large : Number.Double.ofInt? n = none) :
      Strays fields (.error .overflow)
  | unshown {url : Value} (named : fields.lookup "url" = some url)
      (long : (timeoutOf fields).isWritable = false) (other : ∀ n, timeoutOf fields ≠ .int n) :
      Strays fields (.error .numberTooLong)
  | headers {url : Value} {d : Number.Double} {e : Error} (named : fields.lookup "url" = some url)
      (timeout : (timeoutOf fields).toDouble = .ok d) (fault : (headersOf fields).toPairs = .error e) :
      Strays fields (.error e)
  | address {url : Value} {d : Number.Double} {headers : List (Value × Value)}
      (named : fields.lookup "url" = some url) (timeout : (timeoutOf fields).toDouble = .ok d)
      (paired : (headersOf fields).toPairs = .ok headers) (other : ∀ s, url ≠ .text s) :
      Strays fields (.error .notOffered)
  | timeless {url : String} {headers : List (Value × Value)}
      (named : fields.lookup "url" = some (.text url)) (web : webUrl url = true)
      (timeout : (timeoutOf fields).toDouble = .ok .nan)
      (paired : (headersOf fields).toPairs = .ok headers) :
      Strays fields (.ok (made fields (.text url) .nan headers))

end ConnectionSettings

namespace Settings

variable {α : Type} {e : Error}

theorem settles_fault {valid : α → Prop} (fault : SettingsFault) :
    Settles valid (.error (.settings fault) : Except Error α) := ⟨fault, rfl⟩

theorem not_settles_refusal {valid : α → Prop} (other : ∀ fault, e ≠ .settings fault) :
    ¬ Settles valid (.error e : Except Error α) := fun settled => settled.elim other

end Settings

namespace LookupSettings

open Settings

variable {fields : List (String × Value)} {e : Error}

theorem load_of_failed (failed : readAs Value.toInt .notInteger "max_concurrent_lookups" (limitOf fields) =
    .error e) : load fields = .error e := by
  rw [limitOf] at failed
  rw [load, failed]
  rfl

theorem faults_of_int {s : LookupSettings} {n : Int} (limit : s.maxConcurrent = .int n) :
    s.faults = .ok (if n < 1 then [.fewLookups] else []) := by
  rw [faults, limit]
  by_cases few : n < 1 <;> simp [Value.lessThan, bind, Except.bind, pure, Except.pure, few]

theorem load_of_read {n : Int} (read : (limitOf fields).toInt = .ok n) :
    Settles IsValid (load fields) := by
  have most : readAs Value.toInt .notInteger "max_concurrent_lookups" (limitOf fields) = .ok n := readAs_ok read
  rw [limitOf] at most
  simp only [load, most, bind, Except.bind, ensureValid, ensure]
  rw [faults_of_int (n := n) rfl]
  by_cases few : n < 1
  · simp only [if_pos few]
    exact settles_fault _
  · have sound := fun s limit => (faults_of_int (s := s) (n := n) limit).trans (by rw [if_neg few])
    simp only [if_neg few]
    exact ⟨sound _ rfl, n, rfl, by omega⟩

theorem Strays.not_settles {r : Except Error LookupSettings} (strays : Strays fields r) :
    ¬ Settles IsValid r := by
  cases strays with
  | infinite => exact not_settles_refusal nofun
  | unshown => exact not_settles_refusal nofun

theorem Strays.load {r : Except Error LookupSettings} (setting : (limitOf fields).IsSetting)
    (strays : Strays fields r) : load fields = r := by
  cases strays with
  | infinite limit =>
    have failed : (limitOf fields).toInt = .error .overflow := by rw [limit]; rfl
    exact load_of_failed (readAs_passed failed Value.not_isRefusal_overflow)
  | unshown long other =>
    exact load_of_failed (readAs_of_long (setting.refused_of_long long other).1 (.inr rfl) setting.isData long)

theorem settles_or_strays (setting : (limitOf fields).IsSetting) :
    Settles IsValid (LookupSettings.load fields) ∨ Strays fields (LookupSettings.load fields) := by
  rcases setting.toInt_cases with ⟨n, read⟩ | ⟨e, failed, refusal, other⟩ | ⟨negative, object, limit, failed⟩
  · exact .inl (load_of_read read)
  · rcases readAs_cases failed refusal setting.isData with ⟨shown, refused⟩ | ⟨long, refused⟩
    · rw [load_of_failed refused]
      exact .inl (settles_fault _)
    · rw [load_of_failed refused]
      exact .inr (.unshown long other)
  · rw [load_of_failed (readAs_passed failed Value.not_isRefusal_overflow)]
    exact .inr (.infinite limit)

end LookupSettings

namespace ConnectionSettings

open Settings

variable {fields : List (String × Value)} {url : Value} {d : Number.Double} {headers : List (Value × Value)}
  {e : Error}

theorem load_named (named : fields.lookup "url" = some url) : load fields = (do
    let timeout ← readAs Value.toDouble .notNumber "timeout_seconds" (timeoutOf fields)
    let headers ← (headersOf fields).toPairs
    (made fields url timeout headers).ensureValid
    return made fields url timeout headers) := by
  rw [load, named]
  rfl

theorem load_of_late (named : fields.lookup "url" = some url)
    (failed : readAs Value.toDouble .notNumber "timeout_seconds" (timeoutOf fields) = .error e) :
    load fields = .error e := by
  rw [load_named named, failed]
  rfl

theorem load_of_headless (named : fields.lookup "url" = some url)
    (timeout : (timeoutOf fields).toDouble = .ok d) (failed : (headersOf fields).toPairs = .error e) :
    load fields = .error e := by
  rw [load_named named, readAs_ok timeout, failed]
  rfl

theorem load_of_read (named : fields.lookup "url" = some url) (timeout : (timeoutOf fields).toDouble = .ok d)
    (paired : (headersOf fields).toPairs = .ok headers) :
    load fields = (made fields url d headers).ensureValid.map fun _ => made fields url d headers := by
  rw [load_named named, readAs_ok timeout, paired]
  cases checked : (made fields url d headers).ensureValid <;> simp [bind, Except.bind, checked] <;> rfl

theorem notPositive_double (d : Number.Double) : ∃ expired, (Value.double d).notPositive = .ok expired ∧
    (expired = false ↔ d.IsPositive ∨ d = .nan) := by
  refine ⟨_, rfl, ?_⟩
  cases d with
  | nan => simp [Number.Double.ltNat, Value.truthy, Number.Double.isZero]
  | infinity negative =>
    simp [Number.Double.ltNat, Value.truthy, Number.Double.isZero, Number.Double.IsPositive]
  | finite negative mantissa exponent canonical =>
    cases negative <;>
      simp [Number.Double.ltNat, Value.truthy, Number.Double.isZero, Number.Double.IsPositive]

def IsSound (address : String) (timeout : Number.Double) : Prop :=
  webUrl address = true ∧ (timeout.IsPositive ∨ timeout = .nan)

theorem faults_of_text (fields : List (String × Value)) (s : String) (d : Number.Double)
    (headers : List (Value × Value)) : ∃ faults, (made fields (.text s) d headers).faults = .ok faults ∧
      (faults = [] ↔ IsSound s d) := by
  obtain ⟨expired, late, in_time⟩ := notPositive_double d
  refine ⟨(if webUrl s then [] else [.urlScheme (Text.quoted s)]) ++ if expired then [.timeout] else [], ?_, ?_⟩
  · simp only [faults, made, urlFaults, late, bind, Except.bind, pure, Except.pure]
  · rw [IsSound, ← in_time]
    cases webUrl s <;> cases expired <;> simp

theorem check_of_sound {s : String} (sound : IsSound s d) :
    (made fields (.text s) d headers).faults = .ok [] ∧
      (made fields (.text s) d headers).ensureValid = .ok () := by
  obtain ⟨faults, told, none⟩ := faults_of_text fields s d headers
  obtain rfl := none.2 sound
  refine ⟨told, ?_⟩
  rw [ensureValid, ensure, told]
  rfl

theorem check_of_unsound {s : String} (unsound : ¬ IsSound s d) :
    ∃ fault, (made fields (.text s) d headers).ensureValid = .error (.settings fault) := by
  obtain ⟨faults, told, none⟩ := faults_of_text fields s d headers
  cases faults with
  | nil => exact absurd (none.1 rfl) unsound
  | cons fault rest =>
    rw [ensureValid, ensure, told]
    exact ⟨_, rfl⟩

theorem check_of_other (setting : url.IsSetting) (other : ∀ s, url ≠ .text s) :
    (made fields url d headers).ensureValid = .error .notOffered := by
  cases setting with
  | text s => exact absurd rfl (other s)
  | _ => rfl

theorem Strays.not_settles {r : Except Error ConnectionSettings} (strays : Strays fields r) :
    ¬ Settles IsValid r := by
  cases strays with
  | large | unshown | address => exact not_settles_refusal nofun
  | headers _ _ fault =>
    refine not_settles_refusal fun settings => ?_
    rcases Value.toPairs_error fault with rfl | rfl <;> nofun
  | timeless =>
    intro valid
    obtain ⟨-, -, d, object, same, positive⟩ := valid
    obtain ⟨rfl, -⟩ := Value.double.inj same
    exact positive

theorem Strays.load {r : Except Error ConnectionSettings} (given : ∀ f ∈ fields, f.2.IsSetting)
    (strays : Strays fields r) : load fields = r := by
  have setting : (timeoutOf fields).IsSetting := valueOr_of given (.double _ _)
  cases strays with
  | large named timeout large =>
    have failed : (timeoutOf fields).toDouble = .error .overflow := by
      rw [timeout, Value.toDouble, large]
      rfl
    exact load_of_late named (readAs_passed failed Value.not_isRefusal_overflow)
  | unshown named long other =>
    have refused := (setting.refused_of_long long other).2
    exact load_of_late named (readAs_of_long refused (.inr rfl) setting.isData long)
  | headers named timeout fault => exact load_of_headless named timeout fault
  | address named timeout paired other =>
    rw [load_of_read named timeout paired, check_of_other (lookup_of given named) other]
    rfl
  | timeless named web timeout paired =>
    rw [load_of_read named timeout paired, (check_of_sound ⟨web, .inr rfl⟩).2]
    rfl

/-- What was read makes sound settings, or they fail their check. -/
theorem settles_or_strays_of_read (named : fields.lookup "url" = some url) (setting : url.IsSetting)
    (timeout : (timeoutOf fields).toDouble = .ok d) (paired : (headersOf fields).toPairs = .ok headers) :
    Settles IsValid (ConnectionSettings.load fields) ∨ Strays fields (ConnectionSettings.load fields) := by
  rw [load_of_read named timeout paired]
  by_cases text : ∃ s, url = .text s
  · obtain ⟨s, rfl⟩ := text
    by_cases sound : IsSound s d
    · obtain ⟨faultless, checked⟩ := check_of_sound sound
      obtain ⟨web, in_time⟩ := sound
      rw [checked]
      rcases in_time with positive | rfl
      · exact .inl ⟨faultless, ⟨s, rfl, web⟩, d, none, rfl, positive⟩
      · exact .inr (.timeless named web timeout paired)
    · obtain ⟨fault, failed⟩ := check_of_unsound sound
      rw [failed]
      exact .inl (settles_fault fault)
  · have other : ∀ s, url ≠ .text s := fun s same => text ⟨s, same⟩
    rw [check_of_other setting other]
    exact .inr (.address named timeout paired other)

theorem settles_or_strays (given : ∀ f ∈ fields, f.2.IsSetting) :
    Settles IsValid (ConnectionSettings.load fields) ∨ Strays fields (ConnectionSettings.load fields) := by
  have setting : (timeoutOf fields).IsSetting := valueOr_of given (.double _ _)
  -- The time to wait fails before the headers do, and the address is looked at last.
  cases named : fields.lookup "url" with
  | none =>
    rw [ConnectionSettings.load, named]
    exact .inl (settles_fault .urlRequired)
  | some url =>
    rcases setting.toDouble_cases with ⟨d, timeout⟩ | ⟨e, failed, refusal, other⟩ | ⟨n, timeout, large, failed⟩
    · cases paired : (headersOf fields).toPairs with
      | error e =>
        rw [load_of_headless named timeout paired]
        exact .inr (.headers named timeout paired)
      | ok headers => exact settles_or_strays_of_read named (lookup_of given named) timeout paired
    · rcases readAs_cases failed refusal setting.isData with ⟨shown, refused⟩ | ⟨long, refused⟩
      · rw [load_of_late named refused]
        exact .inl (settles_fault _)
      · rw [load_of_late named refused]
        exact .inr (.unshown named long other)
    · rw [load_of_late named (readAs_passed failed Value.not_isRefusal_overflow)]
      exact .inr (.large named timeout large)

end ConnectionSettings

namespace Settings

theorem lookup_ofTexts (environment : List (String × String)) (name : String) :
    (ofTexts environment).lookup name = (environment.lookup name).map .text := by
  induction environment with
  | nil => rfl
  | cons e rest ih =>
    rw [ofTexts, List.map_cons, List.lookup_cons, List.lookup_cons]
    cases name == e.1 with
    | true => rfl
    | false => exact ih

end Settings

namespace LookupSettings

open Settings

def IsTame (v : Value) : Prop := (∃ s, v = .text s) ∨ (∃ b, v = .bool b) ∨ ∃ n, v = .int n

theorem isSetting_of_isTame {v : Value} (tame : IsTame v) : v.IsSetting := by
  rcases tame with ⟨s, rfl⟩ | ⟨b, rfl⟩ | ⟨n, rfl⟩
  · exact .text s
  · exact .bool b
  · exact .int n

theorem not_strays_of_isTame {fields : List (String × Value)} {r : Except Error LookupSettings}
    (tame : IsTame (limitOf fields)) : ¬ Strays fields r := by
  intro strays
  rcases tame with ⟨s, limit⟩ | ⟨b, limit⟩ | ⟨n, limit⟩
  -- A limit that strays is infinite, or no integer and yet too long to be shown.
  all_goals cases strays with
  | infinite infinite => cases limit.symm.trans infinite
  | unshown long other =>
    first
      | exact other n limit
      | rw [limit] at long; cases long

theorem variableField_ofTexts (environment : List (String × String)) (name key : String)
    {read : Value → Except Error Value} (reads : ∀ s, ∃ v, read (.text s) = .ok v ∧ IsTame v) :
    ∃ fields, variableField (ofTexts environment) name key read = .ok fields ∧ ∀ f ∈ fields, IsTame f.2 := by
  rw [variableField, lookup_ofTexts]
  cases environment.lookup (variableStem ++ name) with
  | none => exact ⟨[], rfl, nofun⟩
  | some s =>
    obtain ⟨v, done, tame⟩ := reads s
    refine ⟨[(key, v)], ?_, List.forall_mem_singleton.2 tame⟩
    simp only [Option.map_some, done]
    rfl

theorem settles_environment (environment : List (String × String)) :
    Settles IsValid (loadEnvironment (ofTexts environment)) := by
  have texts : ∀ s, ∃ v, Except.ok (.text s) = (.ok v : Except Error Value) ∧ IsTame v :=
    fun s => ⟨_, rfl, .inl ⟨s, rfl⟩⟩
  have switches : ∀ s, ∃ v, switchedOn (.text s) = .ok v ∧ IsTame v := fun s => ⟨_, rfl, .inr (.inl ⟨_, rfl⟩)⟩
  obtain ⟨most, most_read, most_tame⟩ := variableField_ofTexts environment "MAX_CONCURRENT_LOOKUPS"
    "max_concurrent_lookups" texts
  obtain ⟨strict, strict_read, strict_tame⟩ := variableField_ofTexts environment "STRICT_CONSTRAINTS"
    "strict_constraints" switches
  obtain ⟨cached, cached_read, cached_tame⟩ := variableField_ofTexts environment "CACHE_LOOKUPS"
    "cache_lookups" switches
  have loaded : loadEnvironment (ofTexts environment) = LookupSettings.load (most ++ strict ++ cached) := by
    rw [loadEnvironment, most_read, strict_read, cached_read]
    rfl
  have tame : IsTame (limitOf (most ++ strict ++ cached)) := by
    refine valueOr_of (fun f member => ?_) (.inr (.inr ⟨8, rfl⟩))
    rcases List.mem_append.1 member with member | member
    · exact (List.mem_append.1 member).elim (most_tame f) (strict_tame f)
    · exact cached_tame f member
  rw [loaded]
  exact (settles_or_strays (isSetting_of_isTame tame)).resolve_right (not_strays_of_isTame tame)

end LookupSettings

namespace ConnectionSettings

open Settings

variable (environment : List (String × String)) (address : String)

def fieldsOf : List (String × Value) :=
  ("url", .text address) :: variableField (ofTexts environment) "SPARQL_TIMEOUT" "timeout_seconds" ++
    variableField (ofTexts environment) "SPARQL_TOKEN" "auth_token"

theorem variableField_ofTexts (name key : String) : variableField (ofTexts environment) name key =
    (environment.lookup (variableStem ++ name)).elim [] fun s => [(key, .text s)] := by
  rw [variableField, lookup_ofTexts]
  cases environment.lookup (variableStem ++ name) <;> rfl

theorem isSetting_of_fieldsOf : ∀ f ∈ fieldsOf environment address, f.2.IsSetting := by
  have texts : ∀ name key, ∀ f ∈ variableField (ofTexts environment) name key, f.2.IsSetting := by
    intro name key f member
    rw [variableField_ofTexts] at member
    cases found : environment.lookup (variableStem ++ name) with
    | none =>
      rw [found] at member
      cases member
    | some s =>
      rw [found] at member
      exact List.mem_singleton.1 member ▸ .text s
  intro f member
  rcases List.mem_append.1 member with member | member
  · rcases List.mem_cons.1 member with rfl | member
    · exact .text address
    · exact texts _ _ f member
  · exact texts _ _ f member

theorem timeoutOf_fieldsOf : timeoutOf (fieldsOf environment address) =
    (environment.lookup (variableStem ++ "SPARQL_TIMEOUT")).elim (.double (.ofRatio false 30 1)) .text := by
  rw [timeoutOf, fieldsOf, variableField_ofTexts, variableField_ofTexts]
  cases environment.lookup (variableStem ++ "SPARQL_TIMEOUT") <;>
    cases environment.lookup (variableStem ++ "SPARQL_TOKEN") <;> simp [valueOr, List.lookup_cons]

theorem headersOf_fieldsOf : headersOf (fieldsOf environment address) = .record [] := by
  rw [headersOf, fieldsOf, variableField_ofTexts, variableField_ofTexts]
  cases environment.lookup (variableStem ++ "SPARQL_TIMEOUT") <;>
    cases environment.lookup (variableStem ++ "SPARQL_TOKEN") <;> simp [valueOr, List.lookup_cons]

theorem made_fieldsOf : made (fieldsOf environment address) (.text address) .nan [] =
    { url := .text address
      timeout := .double .nan
      token := (environment.lookup (variableStem ++ "SPARQL_TOKEN")).elim .absent .text
      headers := .list [] } := by
  rw [made, fieldsOf, variableField_ofTexts, variableField_ofTexts]
  cases environment.lookup (variableStem ++ "SPARQL_TIMEOUT") <;>
    cases environment.lookup (variableStem ++ "SPARQL_TOKEN") <;> simp [valueOr, List.lookup_cons]

theorem loadEnvironment_ofTexts :
    (∃ fault, loadEnvironment (ofTexts environment) = .error (.settings fault) ∧
      ∀ url, environment.lookup (variableStem ++ "SPARQL_URL") = some url → url = "") ∨
    ∃ url, environment.lookup (variableStem ++ "SPARQL_URL") = some url ∧
      loadEnvironment (ofTexts environment) = load (fieldsOf environment url) := by
  rw [loadEnvironment, valueOr, lookup_ofTexts]
  cases environment.lookup (variableStem ++ "SPARQL_URL") with
  | none => exact .inl ⟨_, rfl, nofun⟩
  | some url =>
    by_cases empty : url = ""
    · subst empty
      exact .inl ⟨_, rfl, fun _ same => (Option.some.inj same).symm⟩
    · have named : (Value.text url).truthy = true := by simp [Value.truthy, empty]
      refine .inr ⟨url, rfl, ?_⟩
      simp only [Option.map_some, Option.getD_some, named]
      rfl

theorem timeless_iff : (timeoutOf (fieldsOf environment address)).toDouble = .ok .nan ↔
    ∃ time, environment.lookup (variableStem ++ "SPARQL_TIMEOUT") = some time ∧
      Number.Double.ofText? time = some .nan := by
  rw [timeoutOf_fieldsOf]
  cases environment.lookup (variableStem ++ "SPARQL_TIMEOUT") with
  | none =>
    have number : Number.Double.ofRatio false 30 1 ≠ .nan := by decide
    simp [Value.toDouble, number]
  | some time =>
    cases read : Number.Double.ofText? time with
    | none => simp [Value.toDouble, Value.orBad, read]
    | some d => simp [Value.toDouble, Value.orBad, read]

theorem strays_fieldsOf_iff (r : Except Error ConnectionSettings) : Strays (fieldsOf environment address) r ↔
    webUrl address = true ∧ (∃ time, environment.lookup (variableStem ++ "SPARQL_TIMEOUT") = some time ∧
      Number.Double.ofText? time = some .nan) ∧
      r = .ok (made (fieldsOf environment address) (.text address) .nan []) := by
  have addressed : (fieldsOf environment address).lookup "url" = some (.text address) := rfl
  have seconds := timeoutOf_fieldsOf environment address
  have paired : (headersOf (fieldsOf environment address)).toPairs = .ok [] := by
    rw [headersOf_fieldsOf]
    rfl
  rw [← timeless_iff]
  constructor
  · intro strays
    cases strays with
    | large named timeout large =>
      rw [seconds] at timeout
      cases found : environment.lookup (variableStem ++ "SPARQL_TIMEOUT") <;> rw [found] at timeout <;>
        cases timeout
    | unshown named long other =>
      rw [seconds] at long
      cases found : environment.lookup (variableStem ++ "SPARQL_TIMEOUT") <;> rw [found] at long <;>
        cases long
    | headers named timeout fault => cases paired.symm.trans fault
    | address named timeout _ other => exact absurd (Option.some.inj named).symm (other address)
    | timeless named web timeout others =>
      obtain rfl := Value.text.inj (Option.some.inj (addressed.symm.trans named))
      obtain rfl := Except.ok.inj (paired.symm.trans others)
      exact ⟨web, timeout, rfl⟩
  · rintro ⟨web, timeout, rfl⟩
    exact .timeless addressed web timeout paired

theorem strays_environment_iff (r : Except Error ConnectionSettings) :
    (loadEnvironment (ofTexts environment) = r ∧ ¬ Settles IsValid r) ↔
      ∃ url time, environment.lookup (variableStem ++ "SPARQL_URL") = some url ∧ webUrl url = true ∧
        environment.lookup (variableStem ++ "SPARQL_TIMEOUT") = some time ∧
        Number.Double.ofText? time = some .nan ∧
        r = .ok {
          url := .text url
          timeout := .double .nan
          token := (environment.lookup (variableStem ++ "SPARQL_TOKEN")).elim .absent .text
          headers := .list [] } := by
  simp only [← made_fieldsOf environment]
  rcases loadEnvironment_ofTexts environment with ⟨fault, failed, none⟩ | ⟨url, named, loaded⟩
  · constructor
    · rintro ⟨rfl, unsettled⟩
      rw [failed] at unsettled
      exact absurd (settles_fault fault) unsettled
    · rintro ⟨url, time, named, web, -⟩
      obtain rfl := none url named
      exact absurd web (by decide)
  · have given := isSetting_of_fieldsOf environment url
    rw [loaded, named]
    constructor
    · rintro ⟨rfl, unsettled⟩
      have strays := (settles_or_strays given).resolve_left unsettled
      obtain ⟨web, ⟨time, found, read⟩, same⟩ := (strays_fieldsOf_iff environment url _).1 strays
      exact ⟨url, time, rfl, web, found, read, same⟩
    · rintro ⟨url', time, same, web, found, read, rfl⟩
      obtain rfl := Option.some.inj same
      have strays := (strays_fieldsOf_iff environment url _).2 ⟨web, ⟨time, found, read⟩, rfl⟩
      exact ⟨strays.load given, strays.not_settles⟩

end ConnectionSettings

namespace Settings

/-- What comes of fields whose values are settings, and of environments of texts, when it is neither valid settings
nor a fault of the settings. Lookups always settle from an environment. A connection does unless its time to wait
is told as no number, and is then made without one. -/
theorem loading_strays_iff {fields : List (String × Value)} (given : ∀ f ∈ fields, f.2.IsSetting)
    (environment : List (String × String)) :
    (∀ r, (LookupSettings.load fields = r ∧ ¬ Settles LookupSettings.IsValid r) ↔
      LookupSettings.Strays fields r) ∧
    (∀ r, (ConnectionSettings.load fields = r ∧ ¬ Settles ConnectionSettings.IsValid r) ↔
      ConnectionSettings.Strays fields r) ∧
    Settles LookupSettings.IsValid (LookupSettings.loadEnvironment (ofTexts environment)) ∧
    ∀ r, (ConnectionSettings.loadEnvironment (ofTexts environment) = r ∧
        ¬ Settles ConnectionSettings.IsValid r) ↔
      ∃ url time, environment.lookup (variableStem ++ "SPARQL_URL") = some url ∧
        ConnectionSettings.webUrl url = true ∧
        environment.lookup (variableStem ++ "SPARQL_TIMEOUT") = some time ∧
        Number.Double.ofText? time = some .nan ∧
        r = .ok {
          url := .text url
          timeout := .double .nan
          token := (environment.lookup (variableStem ++ "SPARQL_TOKEN")).elim .absent .text
          headers := .list [] } := by
  have limit : (LookupSettings.limitOf fields).IsSetting := valueOr_of given (.int 8)
  refine ⟨fun r => ⟨?_, fun strays => ⟨strays.load limit, strays.not_settles⟩⟩,
    fun r => ⟨?_, fun strays => ⟨strays.load given, strays.not_settles⟩⟩,
    LookupSettings.settles_environment environment, ConnectionSettings.strays_environment_iff environment⟩
  · rintro ⟨rfl, unsettled⟩
    exact (LookupSettings.settles_or_strays limit).resolve_left unsettled
  · rintro ⟨rfl, unsettled⟩
    exact (ConnectionSettings.settles_or_strays given).resolve_left unsettled

def boundless : List (String × Value) :=
  [("max_concurrent_lookups", .double (.infinity false)), ("url", .text "http://h/q"),
    ("timeout_seconds", .text "nan")]

theorem boundless_strays :
    (LookupSettings.load boundless = .error .overflow ∧
      ¬ Settles LookupSettings.IsValid (LookupSettings.load boundless)) ∧
    ¬ Settles ConnectionSettings.IsValid (ConnectionSettings.load boundless) := by
  have given : ∀ f ∈ boundless, f.2.IsSetting := by
    intro f member
    simp only [boundless, List.mem_cons, List.not_mem_nil, or_false] at member
    rcases member with rfl | rfl | rfl
    · exact .double _ _
    · exact .text _
    · exact .text _
  have infinite : LookupSettings.Strays boundless (.error .overflow) :=
    .infinite (show LookupSettings.limitOf boundless = .double (.infinity false) from rfl)
  have timeless : ConnectionSettings.Strays boundless
      (.ok (ConnectionSettings.made boundless (.text "http://h/q") .nan [])) :=
    .timeless rfl (by decide +kernel) (by decide) rfl
  obtain ⟨lookups, connection, -⟩ := loading_strays_iff given []
  obtain ⟨failed, unsettled⟩ := (lookups _).2 infinite
  obtain ⟨loaded, unsettled'⟩ := (connection _).2 timeless
  exact ⟨⟨failed, failed ▸ unsettled⟩, loaded ▸ unsettled'⟩

end Settings

end QuadPull
