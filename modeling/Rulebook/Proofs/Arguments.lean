import Mathlib.Data.List.Basic
import Mathlib.Data.List.TakeWhile
import Rulebook.Arguments
import Rulebook.Error

/-!
What accepted arguments say, told from the arguments themselves. An option that is known everywhere
has the value of the last place where it stands, on either side of the task's name; nothing that
looks like an option is ever the value of another one.
-/

namespace Rulebook.Arguments

section Names

/-- The value that an argument gives to an option: what stands behind an equals sign, else the
argument that comes next. -/
def valueAt? (name argument : String) (next : Option String) : Option String :=
  if argument = "--" ++ name then next
  else (("--" ++ name ++ "=").toList.isPrefixOf? argument.toList).map String.ofList

/-- The value of the last place where an option stands. -/
def written? (name : String) : List String → Option String
  | [] => none
  | argument :: rest => (written? name rest).or (valueAt? name argument rest.head?)

/-- Much is to be logged. -/
def Wordy (arguments : List String) : Prop :=
  "-v" ∈ arguments ∨ "--verbose" ∈ arguments

instance (arguments : List String) : Decidable (Wordy arguments) :=
  inferInstanceAs (Decidable (_ ∨ _))

variable {name other argument value : String} {next : Option String}

theorem valueAt?_eq_none (h : ¬ ['-', '-'] <+: argument.toList) :
    valueAt? name argument next = none := by
  have hlong (cs : List Char) : argument.toList ≠ '-' :: '-' :: cs :=
    fun heq => h ⟨cs, heq.symm⟩
  rw [valueAt?, if_neg, Option.map_eq_none_iff]
  · refine Option.eq_none_iff_forall_ne_some.mpr fun cs hcs => ?_
    have heq := List.isPrefixOf?_eq_some_iff_append_eq.mp hcs
    exact hlong (name.toList ++ '=' :: cs) (by simp [← heq])
  · rintro rfl
    exact hlong name.toList (by simp)

theorem not_prefix_of_isValue (h : isValue argument = true) :
    ¬ ['-', '-'] <+: argument.toList := by
  rintro ⟨cs, heq⟩
  have hdash : argument ≠ "-" := by
    rintro rfl
    cases heq
  simp [isValue, hdash, ← heq] at h

theorem takeWhile_append_equals {xs : List Char} (hxs : '=' ∉ xs) (ys : List Char) :
    (xs ++ '=' :: ys).takeWhile (· ≠ '=') = xs := by
  rw [List.takeWhile_append_of_pos]
  · simp
  · rintro c hc
    have hne : c ≠ '=' := fun heq => hxs (heq ▸ hc)
    exact decide_eq_true hne

theorem valueAt?_long (hother : '=' ∉ other.toList) :
    valueAt? name ("--" ++ other) next = if other = name then next else none := by
  have hjoined : (("--" ++ name ++ "=").toList.isPrefixOf? ("--" ++ other).toList) = none := by
    refine Option.eq_none_iff_forall_ne_some.mpr fun cs hcs => hother ?_
    have heq := List.isPrefixOf?_eq_some_iff_append_eq.mp hcs
    have hchars : name.toList ++ '=' :: cs = other.toList := by simpa using heq
    simp [← hchars]
  rw [valueAt?, hjoined]
  simp [String.append_right_inj]

theorem valueAt?_joined (hname : '=' ∉ name.toList) (hother : '=' ∉ other.toList) :
    valueAt? name ("--" ++ other ++ "=" ++ value) next =
      if other = name then some value else none := by
  have hlong : "--" ++ other ++ "=" ++ value ≠ "--" ++ name := by
    intro heq
    have hchars : other.toList ++ '=' :: value.toList = name.toList := by
      simpa using congrArg String.toList heq
    exact hname (by simp [← hchars])
  rw [valueAt?, if_neg hlong]
  by_cases heq : other = name
  · have hvalue : ("--" ++ name ++ "=").toList.isPrefixOf? ("--" ++ other ++ "=" ++ value).toList =
        some value.toList := by
      rw [List.isPrefixOf?_eq_some_iff_append_eq, heq, ← String.toList_append]
    rw [hvalue, if_pos heq, Option.map_some, String.ofList_toList]
  · rw [if_neg heq, Option.map_eq_none_iff, Option.eq_none_iff_forall_ne_some]
    intro cs hcs
    have hchars : name.toList ++ '=' :: cs = other.toList ++ '=' :: value.toList := by
      simpa using List.isPrefixOf?_eq_some_iff_append_eq.mp hcs
    have hnames : name.toList = other.toList := by
      rw [← takeWhile_append_equals hname cs, hchars, takeWhile_append_equals hother]
    exact heq (String.toList_inj.mp hnames.symm)

end Names

theorem eq_of_splitValue {cs : List Char} {name : String} {value? : Option String}
    (h : splitValue cs = (name, value?)) :
    '=' ∉ name.toList ∧
      cs = name.toList ++ value?.elim [] fun value => '=' :: value.toList := by
  have hname : '=' ∉ cs.takeWhile (· ≠ '=') := by
    intro hmem
    simpa using List.mem_takeWhile_imp hmem
  have hsplit := List.takeWhile_append_dropWhile (p := (· ≠ '=')) (l := cs)
  have hdrop := @List.drop_left _ (cs.takeWhile (· ≠ '=')) (cs.dropWhile (· ≠ '='))
  rw [hsplit] at hdrop
  have hstop := List.head?_dropWhile_not (· ≠ '=') cs
  rw [splitValue, hdrop] at h
  cases hrest : cs.dropWhile (· ≠ '=') with
  | nil =>
      rw [hrest] at h hsplit
      cases h
      rw [String.toList_ofList]
      exact ⟨hname, hsplit.symm⟩
  | cons c rest =>
      rw [hrest] at h hsplit hstop
      cases h
      obtain rfl : c = '=' := by simpa using hstop
      rw [String.toList_ofList]
      refine ⟨hname, ?_⟩
      rw [Option.elim_some, String.toList_ofList, hsplit]

/-- The one option that a single letter stands for. -/
def verbose : OptionSpec :=
  ⟨"verbose", some 'v', .flag⟩

/-- A level at which the options that are known everywhere are what they are everywhere. -/
structure Level.Uniform (level : Level) : Prop where
  common : ∀ option ∈ commonOptions,
    level.options.find? (fun other => other.name == option.name) = some option
  letters : ∀ option ∈ level.options, option.letter ≠ none → option = verbose
  tasks : ∀ task ∈ level.tasks, isValue task = true

theorem letter_eq_none_of_mem_taskOptions {task : String} {option : OptionSpec}
    (h : option ∈ taskOptions task) : option.letter = none := by
  revert option
  unfold taskOptions
  split <;> decide

theorem uniform_outerLevel : outerLevel.Uniform := by
  constructor
  · simp [outerLevel, commonOptions]
  · simp [outerLevel, commonOptions, verbose]
  · decide

theorem uniform_innerLevel (task : String) : (innerLevel task).Uniform := by
  constructor
  · simp [innerLevel, commonOptions]
  · intro option hoption hletter
    rcases List.mem_append.mp hoption with hcommon | htask
    · exact uniform_outerLevel.letters option hcommon hletter
    · exact absurd (letter_eq_none_of_mem_taskOptions htask) hletter
  · nofun

theorem eq_of_accept {given next : Given} {option : OptionSpec} {value : String}
    (h : accept given option value = .ok next) :
    next = given ++ [(option.name, value)] ∧
      (option.kind ≠ .texts → given.lookup option.name = none) := by
  rw [accept] at h
  split at h
  · cases h
  · split at h
    · cases h
    · rename_i hagain
      cases h
      exact ⟨rfl, fun hkind => Option.not_isSome_iff_eq_none.mp (not_and.mp hagain hkind)⟩

/-- How arguments are read, one option after the other. -/
inductive Scans (level : Level) : Given → List String → Given → Tail → Prop where
  | nil {given : Given} : Scans level given [] given none
  | stop {given : Given} : Scans level given ["--"] given none
  | task {given : Given} {task : String} {rest : List String} :
      task ∈ level.tasks → Scans level given (task :: rest) given (some (task, rest))
  | letter {given next final : Given} {rest : List String} {tail : Tail} :
      accept given verbose "" = .ok next → Scans level next rest final tail →
        Scans level given ("-v" :: rest) final tail
  | flag {given next final : Given} {option : OptionSpec} {rest : List String} {tail : Tail} :
      level.options.find? (fun other => other.name == option.name) = some option →
        '=' ∉ option.name.toList → option.kind = .flag →
        accept given option "" = .ok next → Scans level next rest final tail →
          Scans level given (("--" ++ option.name) :: rest) final tail
  | joined {given next final : Given} {option : OptionSpec} {value : String} {rest : List String}
      {tail : Tail} :
      level.options.find? (fun other => other.name == option.name) = some option →
        '=' ∉ option.name.toList → option.kind ≠ .flag →
        accept given option value = .ok next → Scans level next rest final tail →
          Scans level given (("--" ++ option.name ++ "=" ++ value) :: rest) final tail
  | apart {given next final : Given} {option : OptionSpec} {value : String} {rest : List String}
      {tail : Tail} :
      level.options.find? (fun other => other.name == option.name) = some option →
        '=' ∉ option.name.toList → option.kind ≠ .flag → isValue value = true →
        accept given option value = .ok next → Scans level next rest final tail →
          Scans level given (("--" ++ option.name) :: value :: rest) final tail

theorem exists_of_takeLetters {level : Level} (hlevel : level.Uniform) {given final : Given}
    {c : Char} {cs : List Char} (h : takeLetters level given (c :: cs) = .ok final) :
    c = 'v' ∧ ∃ next, accept given verbose "" = .ok next ∧
      takeLetters level next cs = .ok final := by
  rw [takeLetters] at h
  split at h
  · cases h
  · split at h
    · cases h
    · split at h
      · rename_i option hfind
        have hletter : option.letter = some c := by simpa using List.find?_some hfind
        obtain rfl : option = verbose :=
          hlevel.letters option (List.mem_of_find?_eq_some hfind) (by simp [hletter])
        exact ⟨(Option.some.inj hletter).symm, bind_eq_ok_iff.mp h⟩
      · cases h

theorem eq_of_takeLetters {level : Level} (hlevel : level.Uniform) {given next : Given} {c : Char}
    {cs : List Char} (h : takeLetters level given (c :: cs) = .ok next) :
    c = 'v' ∧ cs = [] ∧ accept given verbose "" = .ok next := by
  obtain ⟨hc, once, honce, hrest⟩ := exists_of_takeLetters hlevel h
  cases cs with
  | nil =>
      cases hrest
      exact ⟨hc, rfl, honce⟩
  | cons c' cs =>
      obtain ⟨-, twice, htwice, -⟩ := exists_of_takeLetters hlevel hrest
      have hfree := (eq_of_accept htwice).2 (by decide)
      rw [(eq_of_accept honce).1, List.lookup_append] at hfree
      simp at hfree

section Long

variable {argument name : String} {cs : List Char}

theorem eq_long (hchars : argument.toList = '-' :: '-' :: cs)
    (hsplit : splitValue cs = (name, none)) :
    argument = "--" ++ name ∧ '=' ∉ name.toList := by
  obtain ⟨hplain, hcs⟩ := eq_of_splitValue hsplit
  refine ⟨String.toList_inj.mp ?_, hplain⟩
  rw [hchars, hcs]
  simp

theorem eq_joined {value : String} (hchars : argument.toList = '-' :: '-' :: cs)
    (hsplit : splitValue cs = (name, some value)) :
    argument = "--" ++ name ++ "=" ++ value ∧ '=' ∉ name.toList := by
  obtain ⟨hplain, hcs⟩ := eq_of_splitValue hsplit
  refine ⟨String.toList_inj.mp ?_, hplain⟩
  rw [hchars, hcs]
  simp

end Long

theorem scans_of_scan {level : Level} (hlevel : level.Uniform) {given final : Given}
    {arguments : List String} {tail : Tail} (h : scan level given arguments = .ok (final, tail)) :
    Scans level given arguments final tail := by
  have hnamed {name : String} {option : OptionSpec}
      (hfind : level.options.find? (fun other => other.name == name) = some option) :
      option.name = name := by simpa using List.find?_some hfind
  fun_induction scan level given arguments with
  | case1 =>
      cases h
      exact .nil
  | case2 given task rest htask =>
      cases h
      exact .task (List.contains_iff_mem.mp htask)
  | case3 given argument rest _ hchars hend =>
      cases h
      obtain rfl : argument = "--" := String.toList_inj.mp hchars
      rw [List.isEmpty_iff.mp hend]
      exact .stop
  | case9 given argument rest _ cs _ hchars name option hfind hkind _ _ hsplit ih =>
      obtain ⟨next, haccept, hrest⟩ := bind_eq_ok_iff.mp h
      obtain rfl := hnamed hfind
      obtain ⟨rfl, hplain⟩ := eq_long hchars hsplit
      exact .flag hfind hplain hkind haccept (ih next hrest)
  | case11 given argument rest _ cs _ hchars name option hfind value hkind _ _ hsplit ih =>
      obtain ⟨next, haccept, hrest⟩ := bind_eq_ok_iff.mp h
      obtain rfl := hnamed hfind
      obtain ⟨rfl, hplain⟩ := eq_joined hchars hsplit
      exact .joined hfind hplain hkind haccept (ih next hrest)
  | case13 given argument _ cs _ hchars name option hfind value rest hvalue hkind _ _ hsplit ih =>
      obtain ⟨next, haccept, hrest⟩ := bind_eq_ok_iff.mp h
      obtain rfl := hnamed hfind
      obtain ⟨rfl, hplain⟩ := eq_long hchars hsplit
      exact .apart hfind hplain hkind hvalue haccept (ih next hrest)
  | case15 given argument rest _ c cs _ _ hchars ih =>
      obtain ⟨next, htake, hrest⟩ := bind_eq_ok_iff.mp h
      obtain ⟨rfl, rfl, haccept⟩ := eq_of_takeLetters hlevel htake
      obtain rfl : argument = "-v" := String.toList_inj.mp hchars
      exact .letter haccept (ih next hrest)
  | _ => cases h

namespace Scans

variable {level : Level} {given final : Given} {arguments : List String} {tail : Tail}
  {name : String}

theorem lookup_of_accept {next : Given} {option : OptionSpec} {value : String}
    (h : accept given option value = .ok next) (hkind : option.name = name → option.kind ≠ .texts) :
    next.lookup name =
      (if option.name = name then some value else none).or (given.lookup name) := by
  obtain ⟨rfl, hfree⟩ := eq_of_accept h
  rw [List.lookup_append]
  by_cases heq : option.name = name
  · rw [if_pos heq, ← heq, hfree (hkind heq)]
    simp
  · rw [if_neg heq]
    simp [List.lookup_cons, beq_false_of_ne (Ne.symm heq)]

/-- A path that is given keeps its last value, wherever the reading has come to. -/
theorem written?_or_lookup (hlevel : level.Uniform) (h : Scans level given arguments final tail)
    (hoption : ⟨name, none, .path⟩ ∈ commonOptions) :
    (written? name arguments).or (given.lookup name) =
      (tail.bind fun behind => written? name behind.2).or (final.lookup name) := by
  have hnames : ∀ name ∈ ["config", "catalog", "projects", "audit-log"],
      '=' ∉ name.toList ∧ "" ≠ name ∧ verbose.name ≠ name := by decide
  obtain ⟨hplain, hsome, hverbose⟩ := hnames name (by simpa [commonOptions] using hoption)
  have hpath {option : OptionSpec}
      (hfind : level.options.find? (fun other => other.name == option.name) = some option)
      (heq : option.name = name) : option.kind = .path := by
    rw [heq, hlevel.common _ hoption] at hfind
    rw [← Option.some.inj hfind]
  induction h with
  | nil => rfl
  | stop =>
      have hend : valueAt? name "--" none = none := by
        simpa [hsome] using @valueAt?_long name "" none (by decide)
      rw [written?, written?, List.head?_nil, hend]
      rfl
  | task htask =>
      rw [written?, valueAt?_eq_none (not_prefix_of_isValue (hlevel.tasks _ htask)), Option.or_none]
      rfl
  | letter haccept _ ih =>
      rw [written?, valueAt?_eq_none (by decide), Option.or_none, ← ih,
        lookup_of_accept haccept fun heq => absurd heq hverbose, if_neg hverbose, Option.none_or]
  | @flag _ _ _ option _ _ hfind hother hkind haccept _ ih =>
      have hne : option.name ≠ name := by
        intro heq
        cases hkind.symm.trans (hpath hfind heq)
      rw [written?, valueAt?_long hother, if_neg hne, Option.or_none, ← ih,
        lookup_of_accept haccept fun heq => absurd heq hne, if_neg hne, Option.none_or]
  | joined hfind hother hkind haccept _ ih =>
      rw [written?, valueAt?_joined hplain hother, Option.or_assoc, ← ih,
        lookup_of_accept haccept fun heq => by simp [hpath hfind heq]]
  | apart hfind hother hkind hvalue haccept _ ih =>
      rw [written?, written?, valueAt?_long hother, valueAt?_eq_none (not_prefix_of_isValue hvalue),
        Option.or_none, Option.or_assoc, ← ih,
        lookup_of_accept haccept fun heq => by simp [hpath hfind heq]]
      rfl

theorem isSome_lookup_of_accept {next : Given} {option : OptionSpec} {value : String}
    (h : accept given option value = .ok next) :
    (next.lookup "verbose").isSome ↔ option.name = "verbose" ∨ (given.lookup "verbose").isSome := by
  rw [(eq_of_accept h).1, List.lookup_append, Option.isSome_or, Bool.or_eq_true, or_comm]
  by_cases heq : option.name = "verbose"
  · simp [heq]
  · simp [heq, List.lookup_cons, beq_false_of_ne (Ne.symm heq)]

theorem wordy_cons {argument : String} :
    Wordy (argument :: arguments) ↔
      (argument = "-v" ∨ argument = "--verbose") ∨ Wordy arguments := by
  simp only [Wordy, List.mem_cons, eq_comm]
  tauto

theorem wordy_or_lookup (hlevel : level.Uniform) (h : Scans level given arguments final tail) :
    Wordy arguments ∨ (given.lookup "verbose").isSome ↔
      (∃ behind ∈ tail, Wordy behind.2) ∨ (final.lookup "verbose").isSome := by
  have hflag {option : OptionSpec}
      (hfind : level.options.find? (fun other => other.name == option.name) = some option)
      (hkind : option.kind ≠ .flag) : option.name ≠ "verbose" := by
    intro heq
    rw [heq] at hfind
    rw [← Option.some.inj ((hlevel.common verbose (by simp [commonOptions, verbose])).symm.trans
      hfind)] at hkind
    exact hkind rfl
  have hspelled (name : String) : ("--" ++ name = "-v" ∨ "--" ++ name = "--verbose") ↔
      name = "verbose" := by
    simp only [← String.toList_inj]
    simp
  have hplain {value : String} (hvalue : isValue value = true) :
      ¬ (value = "-v" ∨ value = "--verbose") := by
    rintro (rfl | rfl) <;> cases hvalue
  induction h with
  | nil => simp [Wordy]
  | stop => simp [Wordy]
  | task htask =>
      rw [wordy_cons, or_iff_right (hplain (hlevel.tasks _ htask))]
      simp
  | letter haccept _ ih =>
      refine Iff.trans ?_ ih
      rw [wordy_cons, isSome_lookup_of_accept haccept]
      simp [verbose]
  | flag _ _ _ haccept _ ih =>
      refine Iff.trans ?_ ih
      rw [wordy_cons, hspelled, isSome_lookup_of_accept haccept, or_assoc, or_left_comm]
  | @joined _ _ _ option value _ _ hfind _ hkind haccept _ ih =>
      have hequals : option.name ++ ("=" ++ value) ≠ "verbose" := by
        intro heq
        have hmem : '=' ∈ (option.name ++ ("=" ++ value)).toList := by simp
        rw [heq] at hmem
        revert hmem
        decide
      refine Iff.trans ?_ ih
      rw [wordy_cons, String.append_assoc, String.append_assoc, hspelled, or_iff_right hequals,
        isSome_lookup_of_accept haccept, or_iff_right (hflag hfind hkind)]
  | apart hfind _ hkind hvalue haccept _ ih =>
      refine Iff.trans ?_ ih
      rw [wordy_cons, wordy_cons, hspelled, isSome_lookup_of_accept haccept,
        or_iff_right (hplain hvalue), or_iff_right (hflag hfind hkind),
        or_iff_right (hflag hfind hkind)]

theorem tail_eq_none (h : Scans level given arguments final tail) (htasks : level.tasks = []) :
    tail = none := by
  induction h with
  | nil => rfl
  | stop => rfl
  | task htask =>
      rw [htasks] at htask
      cases htask
  | letter _ _ ih => exact ih
  | flag _ _ _ _ _ ih => exact ih
  | joined _ _ _ _ _ ih => exact ih
  | apart _ _ _ _ _ _ ih => exact ih

end Scans

/-- What accepted arguments say with the options that are known everywhere. -/
structure Invocation.Says (invocation : Invocation) (arguments : List String) : Prop where
  configFile : invocation.configFile = written? "config" arguments
  catalog : invocation.catalog = written? "catalog" arguments
  projects : invocation.projects = written? "projects" arguments
  auditLog : invocation.auditLog = written? "audit-log" arguments
  verbose : invocation.verbose = true ↔ Wordy arguments

theorem says_of_parse {arguments : List String} {invocation : Invocation}
    (h : parse arguments = .ok invocation) : invocation.Says arguments := by
  rw [parse] at h
  obtain ⟨⟨outer, tail⟩, houter, h⟩ := bind_eq_ok_iff.mp h
  simp only at h
  split at h
  · cases h
  · cases h
  · rename_i task rest _
    obtain ⟨⟨inner, behind⟩, hinner, h⟩ := bind_eq_ok_iff.mp h
    have houter := scans_of_scan uniform_outerLevel houter
    have hinner := scans_of_scan (uniform_innerLevel task) hinner
    obtain rfl := hinner.tail_eq_none rfl
    have hpath {name : String} (hoption : ⟨name, none, .path⟩ ∈ commonOptions) :
        (inner.lookup name <|> outer.lookup name) = written? name arguments := by
      have hwhole := houter.written?_or_lookup uniform_outerLevel hoption
      have hbehind := hinner.written?_or_lookup (uniform_innerLevel task) hoption
      simp only [List.lookup_nil, Option.or_none, Option.bind_some, Option.bind_none,
        Option.none_or] at hwhole hbehind
      rw [hwhole, hbehind]
      cases inner.lookup name <;> rfl
    have hverbose : (inner.lookup "verbose" <|> outer.lookup "verbose").isSome = true ↔
        Wordy arguments := by
      have hwhole := houter.wordy_or_lookup uniform_outerLevel
      have hbehind := hinner.wordy_or_lookup (uniform_innerLevel task)
      simp only [List.lookup_nil, Option.isSome_none, Bool.false_eq_true, or_false, Option.mem_def,
        Option.some.injEq, exists_eq_left', reduceCtorEq, false_and, exists_false,
        false_or] at hwhole hbehind
      rw [hwhole, hbehind]
      generalize inner.lookup "verbose" = behind
      cases behind <;> simp only [Option.isSome_none, Option.isSome_some, Bool.false_eq_true,
        false_or, true_or, iff_true] <;> rfl
    split at h
    · cases h
    · cases h
      constructor
      case configFile => exact hpath (by simp [commonOptions])
      case catalog => exact hpath (by simp [commonOptions])
      case projects => exact hpath (by simp [commonOptions])
      case auditLog => exact hpath (by simp [commonOptions])
      case verbose => exact hverbose

/-- Each setting that the flags make comes from the option of its name. -/
theorem flags_of_parse {arguments : List String} {invocation : Invocation}
    (h : parse arguments = .ok invocation) :
    invocation.flags =
      { catalog := written? "catalog" arguments
        projects := written? "projects" arguments
        auditLog := written? "audit-log" arguments
        logLevel := if Wordy arguments then some "debug" else none } := by
  have hsaid := says_of_parse h
  rw [Invocation.flags, hsaid.catalog, hsaid.projects, hsaid.auditLog]
  simp only [hsaid.verbose]

end Rulebook.Arguments
