import Brokerage.Proofs.Session.Timing
import Brokerage.Proofs.Text.Numeral
import Brokerage.Proofs.Url.Written

/-!
# Settings from an environment

What may be wrong with an environment is checked in an order, and the first thing that is wrong is
the one that is reported (`FirstOf`). Each step of reading the settings fails for exactly one
check, so reading fails for the first of all checks that finds something
(`ofLookup_eq_error_iff`), and succeeds if none does: then the settings are what the variables
give, and the standard ones where they are not set (`Given.of_ofLookup`).

The base URL is the one that is given, with a slash at its end. But a path without any text cannot
get one (`settings_of_environment_slashless`).
-/

namespace Brokerage

/-! ### Checks in order -/

section FirstOf

variable {F : Type} {check : F → Prop} {checks more : List (F → Prop)} {fault other : F}

/-- The first of the checks that finds a fault finds this one. -/
inductive FirstOf {F : Type} : List (F → Prop) → F → Prop where
  | here {check : F → Prop} {checks : List (F → Prop)} {fault : F} (found : check fault) :
      FirstOf (check :: checks) fault
  | later {check : F → Prop} {checks : List (F → Prop)} {fault : F} (passed : ∀ f, ¬ check f)
      (first : FirstOf checks fault) : FirstOf (check :: checks) fault

theorem not_firstOf_nil : ¬ FirstOf [] fault := nofun

theorem firstOf_cons_iff :
    FirstOf (check :: checks) fault ↔ check fault ∨ (∀ f, ¬ check f) ∧ FirstOf checks fault := by
  constructor
  · rintro (found | ⟨passed, first⟩)
    · exact .inl found
    · exact .inr ⟨passed, first⟩
  · rintro (found | ⟨passed, first⟩)
    · exact .here found
    · exact .later passed first

/-- A fault that is first is found by one of the checks. -/
theorem FirstOf.exists_mem (first : FirstOf checks fault) : ∃ check ∈ checks, check fault := by
  induction first with
  | here found => exact ⟨_, List.mem_cons_self, found⟩
  | later _ _ ih =>
    obtain ⟨check, there, found⟩ := ih
    exact ⟨check, List.mem_cons_of_mem _ there, found⟩

/-- Further checks come after all that are there. -/
theorem firstOf_append_iff :
    FirstOf (checks ++ more) fault ↔
      FirstOf checks fault ∨ (∀ f, ¬ FirstOf checks f) ∧ FirstOf more fault := by
  induction checks with
  | nil => simp [not_firstOf_nil]
  | cons check rest ih =>
    rw [List.cons_append, firstOf_cons_iff, ih]
    simp only [firstOf_cons_iff]
    constructor
    · rintro (found | ⟨passed, first | ⟨sound, first⟩⟩)
      · exact .inl (.inl found)
      · exact .inl (.inr ⟨passed, first⟩)
      · refine .inr ⟨?_, first⟩
        rintro f (found | ⟨-, first⟩)
        · exact passed f found
        · exact sound f first
    · rintro ((found | ⟨passed, first⟩) | ⟨sound, first⟩)
      · exact .inl found
      · exact .inr ⟨passed, .inl first⟩
      · have passed : ∀ f, ¬ check f := fun f found => sound f (.inl found)
        exact .inr ⟨passed, .inr ⟨fun f first => sound f (.inr ⟨passed, first⟩), first⟩⟩

/-- What fails for a check only succeeds if the check finds nothing. -/
theorem exists_ok_iff {α : Type} {result : Except F α} (fails : ∀ f, result = .error f ↔ check f) :
    (∃ a, result = .ok a) ↔ ∀ f, ¬ check f := by
  simp only [← fails]
  cases result with
  | ok a => simp
  | error f => simp

end FirstOf

/-! ### Timeouts that do not fit together -/

namespace Timeouts

variable {t : Timeouts} {category : Category} {fault : Fault}

/-- Renewals get no time. -/
inductive Hasty (t : Timeouts) : Fault → Prop where
  | zero (zero : t.renewal.nanoseconds = 0) : Hasty t .zeroRenewal

/-- A category gets no time, or no more than renewals do. -/
inductive Short (t : Timeouts) (category : Category) : Fault → Prop where
  | zero (zero : (t.ceiling category).nanoseconds = 0) : Short t category (.zeroCeiling category)
  | long (positive : 0 < (t.ceiling category).nanoseconds) (long : t.ceiling category ≤ t.renewal) :
      Short t category (.longRenewal t.renewal category (t.ceiling category))

/-- What may be wrong with timeouts, in the order in which it is checked. -/
def checks (t : Timeouts) : List (Fault → Prop) :=
  [t.Hasty, t.Short .interactive, t.Short .generation, t.Short .queue, t.Short .upload]

theorem ceilingFault?_eq_some_iff :
    t.ceilingFault? category = some fault ↔ t.Short category fault := by
  simp only [ceilingFault?, Duration.isZero, beq_iff_eq]
  constructor
  · intro found
    split at found
    · next zero =>
      cases found
      exact .zero zero
    split at found
    · next positive long =>
      cases found
      exact .long (Nat.pos_of_ne_zero positive) long
    · cases found
  · rintro (zero | ⟨positive, long⟩)
    · rw [if_pos zero]
    · rw [if_neg (by omega), if_pos long]

/-- **The first thing that is wrong with timeouts is found.** -/
theorem fault?_eq_some_iff : t.fault? = some fault ↔ FirstOf t.checks fault := by
  have hasty : t.renewal.isZero = true ↔ t.renewal.nanoseconds = 0 := beq_iff_eq
  have categories (list : List Category) :
      list.findSome? t.ceilingFault? = some fault ↔ FirstOf (list.map t.Short) fault := by
    induction list with
    | nil => simp [not_firstOf_nil]
    | cons category rest ih =>
      rw [List.findSome?_cons, List.map_cons, firstOf_cons_iff]
      simp only [← ceilingFault?_eq_some_iff, ← ih]
      cases t.ceilingFault? category with
      | some f => simp
      | none => simp
  show (if t.renewal.isZero then _ else Category.all.findSome? t.ceilingFault?) = _ ↔
    FirstOf (t.Hasty :: Category.all.map t.Short) fault
  rw [if_congr hasty rfl rfl, firstOf_cons_iff, ← categories]
  constructor
  · intro found
    split at found
    · next zero =>
      cases found
      exact .inl (.zero zero)
    · next positive =>
      refine .inr ⟨?_, found⟩
      rintro _ ⟨zero⟩
      exact positive zero
  · rintro (hasty | ⟨passed, found⟩)
    · cases hasty with
      | zero zero => rw [if_pos zero]
    · rw [if_neg fun zero => passed _ (.zero zero), found]

/-! ### Ceilings of other categories -/

variable {d : Duration} {a b : Category}

@[simp] theorem ceiling_setCeiling_self : (t.setCeiling d a).ceiling a = d := by
  cases a <;> rfl

theorem ceiling_setCeiling_of_ne (other : b ≠ a) : (t.setCeiling d a).ceiling b = t.ceiling b := by
  cases a <;> cases b <;> first | rfl | exact absurd rfl other

@[simp] theorem renewal_setCeiling : (t.setCeiling d a).renewal = t.renewal := by
  cases a <;> rfl

/-- Timeouts are their ceilings. -/
theorem ext_ceiling {t t' : Timeouts}
    (ceilings : ∀ category, t.ceiling category = t'.ceiling category)
    (renewal : t.renewal = t'.renewal) : t = t' := by
  cases t
  cases t'
  obtain rfl : _ = _ := ceilings .interactive
  obtain rfl : _ = _ := ceilings .generation
  obtain rfl : _ = _ := ceilings .queue
  obtain rfl : _ = _ := ceilings .upload
  obtain rfl : _ = _ := renewal
  rfl

end Timeouts

namespace Config

variable {lookup : String → Option String} {name : String} {standard d : Duration}
  {fault : ConfigFault} {url : Url} {config : Config} {t t' : Timeouts}

/-! ### What variables give -/

/-- The span that a variable gives: so many whole seconds, blanks around their number aside, or the
standard span if it is not set. -/
inductive Span (lookup : String → Option String) (name : String) (standard : Duration) :
    Duration → Prop where
  | unset (unset : lookup name = none) : Span lookup name standard standard
  | seconds {text : String} {n : Nat} (set : lookup name = some text)
      (numeral : Text.IsNumeral (Text.trim text) n) : Span lookup name standard (.ofSeconds n)

/-- The timeouts that the variables give. -/
structure Spans (lookup : String → Option String) (t : Timeouts) : Prop where
  interactive : Span lookup "ESTATEHUB_TIMEOUT_INTERACTIVE_SECS" (.ofSeconds 30) t.interactive
  generation : Span lookup "ESTATEHUB_TIMEOUT_GENERATION_SECS" (.ofSeconds 120) t.generation
  queue : Span lookup "ESTATEHUB_TIMEOUT_QUEUE_SECS" (.ofSeconds 15) t.queue
  upload : Span lookup "ESTATEHUB_TIMEOUT_UPLOAD_SECS" (.ofSeconds 300) t.upload
  renewal : Span lookup "ESTATEHUB_TIMEOUT_RENEWAL_SECS" (.ofSeconds 10) t.renewal

/-- The settings that the variables give. -/
structure Settled (lookup : String → Option String) (config : Config) : Prop where
  base : ∃ text url, lookup "ESTATEHUB_API_URL" = some text ∧ Url.parse text = .ok url ∧
    Url.Closes url config.baseUrl
  timeouts : Spans lookup config.timeouts
  loginPath : config.loginPath = (lookup "ESTATEHUB_LOGIN_PATH").getD "/login"
  csrfCookie : config.csrfCookie = (lookup "ESTATEHUB_CSRF_COOKIE").getD "csrf_token"
  refreshPath : config.refreshPath = "auth/refresh"

/-- The variables of the timeouts, in the order in which they are read. -/
def timeoutVariables : List String :=
  ["ESTATEHUB_TIMEOUT_INTERACTIVE_SECS", "ESTATEHUB_TIMEOUT_GENERATION_SECS",
   "ESTATEHUB_TIMEOUT_QUEUE_SECS", "ESTATEHUB_TIMEOUT_UPLOAD_SECS",
   "ESTATEHUB_TIMEOUT_RENEWAL_SECS"]

/-- The settings that are taken. -/
structure Acceptable (lookup : String → Option String) : Prop where
  url : ∃ text url, lookup "ESTATEHUB_API_URL" = some text ∧ Url.parse text = .ok url
  numbers : ∀ name ∈ timeoutVariables, ∀ text, lookup name = some text →
    ∃ n, Text.IsNumeral (Text.trim text) n
  consistent : ∃ t, Spans lookup t ∧ t.Consistent

/-! ### What may be wrong with them -/

/-- There is no base URL, or it is none. -/
inductive Homeless (lookup : String → Option String) : ConfigFault → Prop where
  | missing (unset : lookup "ESTATEHUB_API_URL" = none) :
      Homeless lookup (.missing "ESTATEHUB_API_URL")
  | url {text : String} {fault : Url.Fault} (set : lookup "ESTATEHUB_API_URL" = some text)
      (failed : Url.parse text = .error fault) : Homeless lookup (.url "ESTATEHUB_API_URL" fault)

/-- A variable is set to something that is no number. -/
inductive Miswritten (lookup : String → Option String) (name : String) : ConfigFault → Prop where
  | number {text : String} {fault : Text.NumeralFault} (set : lookup name = some text)
      (wrong : Text.Wrong (Text.trim text) fault) : Miswritten lookup name (.number name fault)

/-- The timeouts that the variables give do not fit together. -/
inductive Discordant (lookup : String → Option String) : ConfigFault → Prop where
  | timeouts {t : Timeouts} {fault : Timeouts.Fault} (given : Spans lookup t)
      (first : FirstOf t.checks fault) : Discordant lookup (.timeouts fault)

/-- What may be wrong with the variables, in the order in which it is checked. -/
def checks (lookup : String → Option String) : List (ConfigFault → Prop) :=
  Homeless lookup :: (timeoutVariables.map (Miswritten lookup) ++ [Discordant lookup])

/-! ### Reading one variable -/

theorem readUrl_eq_ok_iff : readUrl lookup = .ok url ↔
    ∃ text, lookup "ESTATEHUB_API_URL" = some text ∧ Url.parse text = .ok url := by
  unfold readUrl urlVariable
  cases lookup "ESTATEHUB_API_URL" with
  | none => simp
  | some text => cases parsed : Url.parse text <;> simp [parsed]

theorem readUrl_eq_error_iff : readUrl lookup = .error fault ↔ Homeless lookup fault := by
  unfold readUrl urlVariable
  constructor
  · intro read
    split at read
    · next unset =>
      cases read
      exact .missing unset
    · next set =>
      split at read
      · cases read
      · next failed =>
        cases read
        exact .url set failed
  · rintro (unset | ⟨set, failed⟩)
    · rw [unset]
    · simp only [set, failed]

theorem readSeconds_eq_ok_iff :
    readSeconds lookup name standard = .ok d ↔ Span lookup name standard d := by
  unfold readSeconds
  constructor
  · intro read
    split at read
    · next unset =>
      cases read
      exact .unset unset
    · next set =>
      split at read
      · next numeral =>
        cases read
        exact .seconds set (Text.readNumeral_eq_ok_iff.mp numeral)
      · cases read
  · rintro (unset | ⟨set, numeral⟩)
    · rw [unset]
    · simp only [set, Text.readNumeral_eq_ok_iff.mpr numeral]

theorem readSeconds_eq_error_iff :
    readSeconds lookup name standard = .error fault ↔ Miswritten lookup name fault := by
  unfold readSeconds
  constructor
  · intro read
    split at read
    · cases read
    · next set =>
      split at read
      · cases read
      · next wrong =>
        cases read
        exact .number set (Text.readNumeral_eq_error_iff.mp wrong)
  · rintro ⟨set, wrong⟩
    simp only [set, Text.readNumeral_eq_error_iff.mpr wrong]

/-- A variable gives one span at most. -/
theorem Span.unique {d' : Duration} (span : Span lookup name standard d)
    (span' : Span lookup name standard d') : d = d' := by
  have read := readSeconds_eq_ok_iff.mpr span
  rw [readSeconds_eq_ok_iff.mpr span'] at read
  exact (Except.ok.inj read).symm

/-! ### Reading all timeouts -/

/-- Each ceiling is read from its variable, and the others stay. -/
theorem spans_of_readCeilings {list : List Category} (distinct : list.Nodup)
    (read : readCeilings lookup list t = .ok t') :
    (∀ category ∈ list, Span lookup (ceilingVariable category) (t.ceiling category)
      (t'.ceiling category)) ∧
      (∀ category ∉ list, t'.ceiling category = t.ceiling category) ∧ t'.renewal = t.renewal := by
  induction list generalizing t with
  | nil =>
    cases read
    exact ⟨nofun, fun _ _ => rfl, rfl⟩
  | cons first rest ih =>
    obtain ⟨fresh, distinct⟩ := List.nodup_cons.mp distinct
    rw [readCeilings] at read
    split at read
    · next d here =>
      obtain ⟨spans, others, renewal⟩ := ih distinct read
      refine ⟨?_, ?_, renewal.trans Timeouts.renewal_setCeiling⟩
      · intro category there
        rcases List.mem_cons.mp there with rfl | later
        · rw [others _ fresh, Timeouts.ceiling_setCeiling_self]
          exact readSeconds_eq_ok_iff.mp here
        · have other : category ≠ first := by
            rintro rfl
            exact fresh later
          have span := spans category later
          rwa [Timeouts.ceiling_setCeiling_of_ne other] at span
      · intro category absent
        rw [List.mem_cons, not_or] at absent
        obtain ⟨other, later⟩ := absent
        rw [others category later, Timeouts.ceiling_setCeiling_of_ne other]
    · cases read

/-- **Of the ceilings the first one that is miswritten is reported.** -/
theorem readCeilings_eq_error_iff {list : List Category} :
    readCeilings lookup list t = .error fault ↔
      FirstOf (list.map fun category => Miswritten lookup (ceilingVariable category)) fault := by
  induction list generalizing t with
  | nil => exact iff_of_false nofun not_firstOf_nil
  | cons first rest ih =>
    have check f : readSeconds lookup (ceilingVariable first) (t.ceiling first) = .error f ↔
        Miswritten lookup (ceilingVariable first) f := readSeconds_eq_error_iff
    rw [List.map_cons, firstOf_cons_iff, readCeilings, ← exists_ok_iff check, ← check]
    cases readSeconds lookup (ceilingVariable first) (t.ceiling first) with
    | ok d => simp [ih]
    | error f => simp

theorem readTimeouts_eq_error_iff : readTimeouts lookup = .error fault ↔
    FirstOf (timeoutVariables.map (Miswritten lookup)) fault := by
  have ceilings f : readCeilings lookup Category.all .standard = .error f ↔
      FirstOf (Category.all.map fun category => Miswritten lookup (ceilingVariable category)) f :=
    readCeilings_eq_error_iff
  show _ ↔ FirstOf
    ((Category.all.map fun category => Miswritten lookup (ceilingVariable category)) ++
      [Miswritten lookup renewalVariable]) fault
  rw [firstOf_append_iff, firstOf_cons_iff, ← exists_ok_iff ceilings, ← ceilings, readTimeouts]
  cases readCeilings lookup Category.all .standard with
  | error f => simp
  | ok t =>
    have renewal f : readSeconds lookup renewalVariable t.renewal = .error f ↔
        Miswritten lookup renewalVariable f := readSeconds_eq_error_iff
    simp only [← renewal]
    cases readSeconds lookup renewalVariable t.renewal with
    | ok d => simp [not_firstOf_nil]
    | error f => simp [not_firstOf_nil]

/-- **The timeouts are those that the variables give.** -/
theorem readTimeouts_eq_ok_iff : readTimeouts lookup = .ok t ↔ Spans lookup t := by
  have sound {t : Timeouts} (read : readTimeouts lookup = .ok t) : Spans lookup t := by
    unfold readTimeouts at read
    split at read
    · cases read
    · next ceilings =>
      obtain ⟨spans, -, renewal⟩ := spans_of_readCeilings (by decide) ceilings
      split at read
      · next here =>
        cases read
        have span := readSeconds_eq_ok_iff.mp here
        rw [renewal] at span
        have category (category : Category) := spans category (Timeouts.mem_all category)
        exact ⟨category .interactive, category .generation, category .queue, category .upload, span⟩
      · cases read
  refine ⟨sound, fun spans => ?_⟩
  cases read : readTimeouts lookup with
  | ok t' =>
    -- the variables give no other timeouts
    obtain ⟨interactive, generation, queue, upload, renewal⟩ := spans
    obtain ⟨interactive', generation', queue', upload', renewal'⟩ := sound read
    refine congrArg _ (Timeouts.ext_ceiling (fun category => ?_) (renewal'.unique renewal))
    cases category with
    | interactive => exact interactive'.unique interactive
    | generation => exact generation'.unique generation
    | queue => exact queue'.unique queue
    | upload => exact upload'.unique upload
  | error fault =>
    -- a variable that gives a span is not miswritten
    have never {name : String} {standard d : Duration} (span : Span lookup name standard d) :
        ¬ Miswritten lookup name fault := by
      intro wrong
      have read := readSeconds_eq_ok_iff.mpr span
      rw [readSeconds_eq_error_iff.mpr wrong] at read
      cases read
    obtain ⟨check, inside, found⟩ := (readTimeouts_eq_error_iff.mp read).exists_mem
    obtain ⟨name, there, rfl⟩ := List.mem_map.mp inside
    simp only [timeoutVariables, List.mem_cons, List.not_mem_nil, or_false] at there
    rcases there with rfl | rfl | rfl | rfl | rfl
    · exact absurd found (never spans.interactive)
    · exact absurd found (never spans.generation)
    · exact absurd found (never spans.queue)
    · exact absurd found (never spans.upload)
    · exact absurd found (never spans.renewal)

/-! ### Reading everything -/

/-- **The first check that finds something is the one that is reported.** -/
theorem ofLookup_eq_error_iff : ofLookup lookup = .error fault ↔ FirstOf (checks lookup) fault := by
  have homeless f : readUrl lookup = .error f ↔ Homeless lookup f := readUrl_eq_error_iff
  have miswritten f : readTimeouts lookup = .error f ↔
      FirstOf (timeoutVariables.map (Miswritten lookup)) f := readTimeouts_eq_error_iff
  rw [checks, firstOf_cons_iff, firstOf_append_iff, firstOf_cons_iff, ← exists_ok_iff homeless,
    ← exists_ok_iff miswritten, ← homeless, ← miswritten, ofLookup]
  cases readUrl lookup with
  | error f => simp
  | ok url =>
    cases read : readTimeouts lookup with
    | error f => simp
    | ok t =>
      have given := readTimeouts_eq_ok_iff.mp read
      have discordant : Discordant lookup fault ↔ ∃ f, t.fault? = some f ∧ .timeouts f = fault := by
        constructor
        · rintro ⟨other, first⟩
          have same := readTimeouts_eq_ok_iff.mpr other
          rw [read] at same
          cases same
          exact ⟨_, Timeouts.fault?_eq_some_iff.mpr first, rfl⟩
        · rintro ⟨f, found, rfl⟩
          exact .timeouts given (Timeouts.fault?_eq_some_iff.mp found)
      rw [discordant]
      cases found : t.fault? with
      | some f => simp [found, not_firstOf_nil]
      | none => simp [found, not_firstOf_nil]

/-- **What is accepted is settled by the variables**, and the timeouts are consistent. -/
theorem Settled.of_ofLookup (read : ofLookup lookup = .ok config) :
    Settled lookup config ∧ config.timeouts.Consistent := by
  unfold ofLookup at read
  split at read
  · cases read
  next url home =>
  split at read
  · cases read
  next t timeouts =>
  split at read
  · cases read
  next consistent =>
  cases read
  obtain ⟨text, set, parsed⟩ := readUrl_eq_ok_iff.mp home
  constructor
  · exact ⟨⟨text, url, set, parsed, Url.closes_withTrailingSlash parsed⟩,
      readTimeouts_eq_ok_iff.mp timeouts, rfl, rfl, rfl⟩
  · exact Timeouts.fault?_eq_none_iff.mp consistent

/-- Settings are accepted exactly if nothing is wrong with them. -/
theorem exists_ofLookup_eq_ok_iff :
    (∃ config, ofLookup lookup = .ok config) ↔ Acceptable lookup := by
  constructor
  · rintro ⟨config, read⟩
    obtain ⟨⟨⟨text, url, set, parsed, -⟩, spans, -, -, -⟩, consistent⟩ := Settled.of_ofLookup read
    refine ⟨⟨text, url, set, parsed⟩, ?_, ⟨_, spans, consistent⟩⟩
    -- a span that is set is read from its numeral
    have numeral {name : String} {standard d : Duration} (span : Span lookup name standard d) :
        ∀ text, lookup name = some text → ∃ n, Text.IsNumeral (Text.trim text) n := by
      intro text set
      cases span with
      | unset unset => exact nomatch unset.symm.trans set
      | seconds set' numeral =>
        cases set'.symm.trans set
        exact ⟨_, numeral⟩
    intro name there
    simp only [timeoutVariables, List.mem_cons, List.not_mem_nil, or_false] at there
    rcases there with rfl | rfl | rfl | rfl | rfl
    · exact numeral spans.interactive
    · exact numeral spans.generation
    · exact numeral spans.queue
    · exact numeral spans.upload
    · exact numeral spans.renewal
  · rintro ⟨⟨text, url, set, parsed⟩, -, t, spans, consistent⟩
    unfold ofLookup
    simp only [readUrl_eq_ok_iff.mpr ⟨text, set, parsed⟩, readTimeouts_eq_ok_iff.mpr spans,
      Timeouts.fault?_eq_none_iff.mpr consistent]
    exact ⟨_, rfl⟩

/-- **An environment is accepted exactly if it is consistent.** The settings are then those that its
variables give, and else what is reported is the first thing that is wrong, in the order of the
checks. -/
theorem settings_of_environment (lookup : String → Option String) :
    ((∃ config, ofLookup lookup = .ok config) ↔ Acceptable lookup) ∧
      (∀ config, ofLookup lookup = .ok config →
        Settled lookup config ∧ config.timeouts.Consistent) ∧
      ∀ error, (ofLookup lookup).mapError Error.config = .error error ↔
        ∃ fault, error = .config fault ∧ FirstOf (checks lookup) fault := by
  refine ⟨exists_ofLookup_eq_ok_iff, fun config => Settled.of_ofLookup, fun error => ?_⟩
  simp only [← ofLookup_eq_error_iff]
  cases ofLookup lookup with
  | ok config => simp [Except.mapError]
  | error fault => simp [Except.mapError, eq_comm]

namespace Sample

/-- An environment with some settings, and with blanks and a sign around a number. -/
def padded : String → Option String := fun name =>
  [("ESTATEHUB_API_URL", "https://app.example.com/api/v1"),
   ("ESTATEHUB_CSRF_COOKIE", "token"),
   ("ESTATEHUB_TIMEOUT_INTERACTIVE_SECS", " +45\n"),
   ("ESTATEHUB_TIMEOUT_RENEWAL_SECS", "14")].lookup name

/-- What it comes to. -/
def paddedConfig : Config where
  baseUrl := ⟨"https", some ⟨"", none, .named "app.example.com", none⟩, .rooted ["api", "v1", ""],
    none, none⟩
  refreshPath := "auth/refresh"
  loginPath := "/login"
  csrfCookie := "token"
  timeouts := { Timeouts.standard with interactive := .ofSeconds 45, renewal := .ofSeconds 14 }

/-- A base URL with nothing behind its scheme. -/
def slashless : String → Option String := fun name => [("ESTATEHUB_API_URL", "a:")].lookup name

end Sample

/-- Blanks and a sign do not count, and renewals may take a second less than
the shortest requests. -/
theorem settings_of_environment_padded :
    Settled Sample.padded Sample.paddedConfig ∧ Sample.paddedConfig.timeouts.Consistent := by
  have read : ofLookup Sample.padded = .ok Sample.paddedConfig := by
    with_unfolding_all rfl
  exact (settings_of_environment Sample.padded).2.1 _ read

/-- Where nothing is behind the scheme, the slash that is put there is escaped: the base URL is
`a:%2F`, which does not end in a slash. -/
theorem settings_of_environment_slashless :
    ∃ config, ofLookup Sample.slashless = .ok config ∧ config.baseUrl.write = "a:%2F" ∧
      ¬ Url.EndsInSlash config.baseUrl.path.write := by
  refine ⟨.ofUrl ⟨"a", none, .rootless "", none, none⟩, ?_, ?_, ?_⟩
  · with_unfolding_all rfl
  · decide
  · decide

end Config

end Brokerage
