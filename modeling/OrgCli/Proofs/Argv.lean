import OrgCli.Spec.Clap

/-!
# `OrgCli.Proofs.Argv`: the sentinel cuts the command line in order

`splitSentinel_cut` is the spec lemma of `splitSentinel`: once the sentinel is found, the
tokens behind it split at the first subcommand name. The theorems about the program follow.

* `splitSentinel_partition`: the result is the input without the sentinel, with the launcher
  arguments cut out, and no index is out of range.
* `commandPart_kept_iff`: the program looks for the sentinel behind the subcommand too. What
  stands there is left alone exactly when no flag position from there on holds a `--`.
* `launcherForms_agree`: the two ways to pass launcher arguments give the same command line.
-/

set_option autoImplicit false

namespace OrgCli

open OrgCli.Support
open OrgCli.Argv

/-! ### The sentinel -/

/-- The loop starts at index 1. In an empty `argv` it ends at once. -/
theorem findSentinel_eq (argv : List String) :
    findSentinel argv = walk (· == "--") valueCount argv 1 := by
  unfold findSentinel
  cases argv with
  | nil =>
      have hlen : ([] : List String).length ≤ 1 := Nat.zero_le 1
      rw [walk_end hlen]
      exact walk_end (Nat.le_refl 0)
  | cons tok argv => rfl

/-- The walk has no hit exactly when there is no sentinel. -/
theorem noHit_iff (argv : List String) :
    NoHit (· == "--") valueCount argv 1 ↔ NoSentinel argv := by
  constructor
  · intro h i hi heq
    have hne := h i "--" hi.2 heq
    cases hne
  · intro h i tok hi htok
    obtain ⟨hlt, _⟩ := List.getElem?_eq_some_iff.mp htok
    have hne := h i ⟨hlt, hi⟩
    rw [htok] at hne
    simpa using hne

/-- The first hit of the walk is the first sentinel. -/
theorem firstHit_iff (argv : List String) (i : Nat) :
    FirstHit (· == "--") valueCount argv 1 i ↔ FirstSentinel argv i := by
  constructor
  · intro h
    obtain ⟨tok, htok, hhit⟩ := h.holds
    obtain rfl : tok = "--" := by simpa using hhit
    obtain ⟨hlt, _⟩ := List.getElem?_eq_some_iff.mp htok
    refine ⟨⟨hlt, h.reached⟩, htok, ?_⟩
    intro k hk hki heq
    have hne := h.first k "--" hk.2 hki heq
    cases hne
  · intro h
    refine ⟨h.position.2, ⟨"--", h.holds, rfl⟩, ?_⟩
    intro k tok hk hki htok
    obtain ⟨hlt, _⟩ := List.getElem?_eq_some_iff.mp htok
    have hne := h.first k ⟨hlt, hk⟩ hki
    rw [htok] at hne
    simpa using hne

/-- There is no sentinel, or there is a first one. -/
theorem sentinel_cases (argv : List String) : NoSentinel argv ∨ ∃ i, FirstSentinel argv i := by
  rcases walk_cases (· == "--") valueCount argv 1 with
    ⟨h, _⟩ | ⟨i, h, _⟩
  · exact Or.inl ((noHit_iff argv).mp h)
  · exact Or.inr ⟨i, (firstHit_iff argv i).mp h⟩

/-- Without a sentinel the loop finds nothing. -/
theorem findSentinel_of_none {argv : List String} (h : NoSentinel argv) :
    findSentinel argv = some none := by
  rw [findSentinel_eq, walk_eq_miss_iff]
  exact (noHit_iff argv).mpr h

/-- The loop finds the first sentinel. -/
theorem findSentinel_of_first {argv : List String} {i : Nat} (h : FirstSentinel argv i) :
    findSentinel argv = some (some i) := by
  rw [findSentinel_eq, walk_eq_hit_iff]
  exact (firstHit_iff argv i).mpr h

/-! ### The split -/

/-- Without a sentinel the command line is left as it is. -/
theorem splitSentinel_of_none {argv : List String} (h : NoSentinel argv)
    (subcommands : List String) : splitSentinel argv subcommands = some (argv, []) := by
  unfold splitSentinel
  rw [findSentinel_of_none h]
  rfl

/-- The search finds nothing in a part without a subcommand name. -/
theorem findSubcommand_miss (before : List String) {extra subcommands : List String}
    (hextra : ∀ tok ∈ extra, tok ∉ subcommands) :
    findSubcommand (before ++ extra) subcommands before.length = some none := by
  show walk subcommands.contains (fun _ => 0) (before ++ extra) before.length = some none
  refine walk_miss _ _ ?_
  intro tok htok
  simpa using hextra tok htok

/-- The search stops at the first subcommand name. -/
theorem findSubcommand_hit (before : List String) {extra subcommands : List String}
    {name : String} (tail : List String) (hextra : ∀ tok ∈ extra, tok ∉ subcommands)
    (hname : name ∈ subcommands) :
    findSubcommand (before ++ (extra ++ name :: tail)) subcommands before.length
      = some (some (before ++ extra).length) := by
  show walk subcommands.contains (fun _ => 0) (before ++ (extra ++ name :: tail)) before.length
    = some (some (before ++ extra).length)
  refine walk_unit _ _ ?_ ?_
  · intro tok htok
    simpa using hextra tok htok
  · simpa using hname

/-- The part behind a sentinel is the launcher arguments, up to the first subcommand name,
and the rest. -/
theorem splitSentinel_cut {before extra rest subcommands : List String}
    (h : findSentinel (before ++ "--" :: (extra ++ rest)) = some (some before.length))
    (hextra : ∀ tok ∈ extra, tok ∉ subcommands)
    (hrest : rest = [] ∨ ∃ name tail, rest = name :: tail ∧ name ∈ subcommands) :
    splitSentinel (before ++ "--" :: (extra ++ rest)) subcommands
      = some (before ++ rest, extra) := by
  -- The search starts behind the sentinel, which belongs to the first part then.
  have hargv : before ++ "--" :: (extra ++ rest) = (before ++ ["--"]) ++ (extra ++ rest) := by
    simp
  have hstart : before.length + 1 = (before ++ ["--"]).length := by simp
  have hcleaned : slice? (before ++ "--" :: (extra ++ rest)) 0 before.length = some before :=
    slice?_of_append (List.nil_append _).symm rfl (by simp)
  unfold splitSentinel
  rw [h]
  rcases hrest with hnil | ⟨name, tail, hcons, hname⟩
  · subst hnil
    have hfind : findSubcommand (before ++ "--" :: (extra ++ [])) subcommands
        (before.length + 1) = some none := by
      rw [hargv, hstart]
      refine findSubcommand_miss _ ?_
      rwa [List.append_nil]
    have hslice : slice? (before ++ "--" :: (extra ++ [])) (before.length + 1)
        (before ++ "--" :: (extra ++ [])).length = some extra :=
      slice?_of_append hargv hstart (by simp; omega)
    simp only [Option.bind_eq_bind, Option.bind_some, hfind, hcleaned, hslice,
      Option.pure_def]
    rw [List.append_nil before]
  · subst hcons
    have hfind : findSubcommand (before ++ "--" :: (extra ++ name :: tail)) subcommands
        (before.length + 1) = some (some (before ++ ["--"] ++ extra).length) := by
      rw [hargv, hstart]
      exact findSubcommand_hit _ tail hextra hname
    have hall : before ++ "--" :: (extra ++ name :: tail)
        = (before ++ ["--"] ++ extra) ++ (name :: tail ++ []) := by simp
    have htail : slice? (before ++ "--" :: (extra ++ name :: tail))
        (before ++ ["--"] ++ extra).length (before ++ "--" :: (extra ++ name :: tail)).length
          = some (name :: tail) :=
      slice?_of_append hall rfl (by simp; omega)
    have hslice : slice? (before ++ "--" :: (extra ++ name :: tail)) (before.length + 1)
        (before ++ ["--"] ++ extra).length = some extra :=
      slice?_of_append hargv hstart (by simp; omega)
    simp only [Option.bind_eq_bind, Option.bind_some, hfind, hcleaned, htail, hslice,
      Option.pure_def]

/-- Without a sentinel the split is the input. Otherwise the input is the part before the
first sentinel, the sentinel, launcher arguments without a subcommand name, and a rest that
is empty or starts with one. -/
theorem splitSentinel_cases (argv subcommands : List String) :
    (NoSentinel argv ∧ splitSentinel argv subcommands = some (argv, [])) ∨
      ∃ before extra rest, argv = before ++ "--" :: (extra ++ rest) ∧
        FirstSentinel argv before.length ∧ (∀ tok ∈ extra, tok ∉ subcommands) ∧
        (rest = [] ∨ ∃ name tail, rest = name :: tail ∧ name ∈ subcommands) ∧
        splitSentinel argv subcommands = some (before ++ rest, extra) := by
  rcases sentinel_cases argv with hnone | ⟨i, hfirst⟩
  · exact Or.inl ⟨hnone, splitSentinel_of_none hnone subcommands⟩
  · obtain ⟨before, behind, rfl, rfl⟩ := exists_before hfirst.holds
    obtain ⟨extra, rest, rfl, hextra, hrest⟩ := exists_part subcommands.contains behind
    simp only [List.contains_eq_mem, decide_eq_false_iff_not, decide_eq_true_eq] at hextra hrest
    have hsplit := splitSentinel_cut (findSentinel_of_first hfirst) hextra hrest
    exact Or.inr ⟨before, extra, rest, rfl, hfirst, hextra, hrest, hsplit⟩

/-- The split is a partition of the command line, and the program name stays first. The
launcher arguments are what is cut out behind the first sentinel. No index is out of
range. -/
theorem splitSentinel_partition (argv subcommands : List String) :
    ∃ cleaned extra, splitSentinel argv subcommands = some (cleaned, extra) ∧
      cleaned.head? = argv.head? ∧
      ((NoSentinel argv ∧ cleaned = argv ∧ extra = []) ∨
        ∃ before rest, argv = before ++ "--" :: (extra ++ rest) ∧
          FirstSentinel argv before.length ∧ (∀ tok ∈ extra, tok ∉ subcommands) ∧
          (rest = [] ∨ ∃ name tail, rest = name :: tail ∧ name ∈ subcommands) ∧
          cleaned = before ++ rest) := by
  rcases splitSentinel_cases argv subcommands with
    ⟨hnone, hsplit⟩ | ⟨before, extra, rest, hargv, hfirst, hextra, hrest, hsplit⟩
  · exact ⟨argv, [], hsplit, rfl, Or.inl ⟨hnone, rfl, rfl⟩⟩
  · refine ⟨before ++ rest, extra, hsplit, ?_,
      Or.inr ⟨before, rest, hargv, hfirst, hextra, hrest, rfl⟩⟩
    -- The sentinel is not at index 0, so the first part holds the program name.
    have hpos := hfirst.position.2.le
    rw [hargv]
    cases before with
    | nil =>
        rw [List.length_nil] at hpos
        omega
    | cons program before => rfl

/-- The split keeps the command line exactly when there is no sentinel. -/
theorem splitSentinel_keeps_iff (argv subcommands : List String) :
    splitSentinel argv subcommands = some (argv, []) ↔ NoSentinel argv := by
  constructor
  · intro h
    rcases splitSentinel_cases argv subcommands with
      ⟨hnone, _⟩ | ⟨before, extra, rest, hargv, _, _, _, hsplit⟩
    · exact hnone
    · -- The sentinel is gone from the result, so its length is not the input's.
      rw [h] at hsplit
      have heq : argv = before ++ rest := congrArg Prod.fst (Option.some.inj hsplit)
      have hlen := congrArg List.length (heq.symm.trans hargv)
      simp only [List.length_append, List.length_cons] at hlen
      omega
  · intro h
    exact splitSentinel_of_none h subcommands

/-! ### Behind the subcommand -/

/-- The program does not stop at the subcommand when it looks for the sentinel. A command
line with its subcommand first is kept exactly when no flag position from the subcommand on
holds a `--`. -/
theorem commandPart_kept_iff (argv subcommands : List String) (i : Nat)
    (h : SubcommandFirst argv subcommands i) :
    splitSentinel argv subcommands = some (argv, []) ↔
      ∀ j, FlagPosition argv j → i ≤ j → argv[j]? ≠ some "--" := by
  rw [splitSentinel_keeps_iff]
  constructor
  · intro hnone j hj _
    exact hnone j hj
  · intro hbehind j hj
    by_cases hij : i ≤ j
    · exact hbehind j hj hij
    · have hlt : j < i := by omega
      exact (h.first j hj hlt).1

/-- A subcommand at index 1 comes first. -/
theorem subcommandFirst_one {argv subcommands : List String} {name : String}
    (hname : name ∈ subcommands) (hargv : argv[1]? = some name) :
    SubcommandFirst argv subcommands 1 where
  position := ⟨(List.getElem?_eq_some_iff.mp hargv).1, .refl 1⟩
  holds := ⟨name, hname, hargv⟩
  first := by
    intro k hk hlt
    have := hk.2.le
    omega

/-- `org read x` is kept. -/
theorem commandPart_kept_read :
    splitSentinel ["org", "read", "x"] SUBCOMMAND_NAMES = some (["org", "read", "x"], []) := by
  have hfirst : SubcommandFirst ["org", "read", "x"] SUBCOMMAND_NAMES 1 :=
    subcommandFirst_one (by simp [SUBCOMMAND_NAMES]) rfl
  refine (commandPart_kept_iff _ _ 1 hfirst).mpr ?_
  intro j _ _ hj
  have hmem := List.mem_of_getElem? hj
  simp at hmem

/-- In `org read -- x` the operand of `read` becomes a launcher argument. -/
theorem commandPart_operand_moved :
    SubcommandFirst ["org", "read", "--", "x"] SUBCOMMAND_NAMES 1 ∧
      splitSentinel ["org", "read", "--", "x"] SUBCOMMAND_NAMES
        = some (["org", "read"], ["x"]) := by
  refine ⟨subcommandFirst_one (by simp [SUBCOMMAND_NAMES]) rfl, ?_⟩
  decide +kernel

/-! ### The two forms of launcher arguments -/

/-- A token with a `=` is none of the tokens that are compared as a whole. -/
theorem ne_flag_of_eq {tok : String} (h : '=' ∈ tok.toList) :
    tok ≠ "--" ∧ tok ≠ "--compact" ∧ tok ∉ valueFlags := by
  have hne : ∀ flag : String, '=' ∉ flag.toList → tok ≠ flag := by
    intro flag hflag heq
    exact hflag (heq ▸ h)
  refine ⟨hne _ (by decide), hne _ (by decide), ?_⟩
  simp only [valueFlags, List.mem_cons, List.not_mem_nil, or_false, not_or]
  exact ⟨hne _ (by decide), hne _ (by decide), hne _ (by decide)⟩

/-- A token with a `=` is a block of its own. -/
theorem isBlock_of_eq {tok : String} (h : '=' ∈ tok.toList) :
    IsBlock (· == "--") valueCount [tok] := by
  obtain ⟨hsentinel, _, hvalue⟩ := ne_flag_of_eq h
  exact ⟨tok, [], rfl, by simp [hsentinel], by simp [valueCount, hvalue]⟩

/-- The tokens of a global option are a block: none of them is looked at as a sentinel. -/
theorem GlobalOption.isBlock (option : GlobalOption) :
    IsBlock (· == "--") valueCount option.tokens := by
  cases option with
  | compact => exact ⟨"--compact", [], rfl, rfl, rfl⟩
  | server v => exact ⟨"--server", [v], rfl, rfl, rfl⟩
  | timeout v => exact ⟨"--timeout", [v], rfl, rfl, rfl⟩
  | serverEq v => exact isBlock_of_eq (by simp [String.toList_append])
  | timeoutEq v => exact isBlock_of_eq (by simp [String.toList_append])

/-- The loop comes by the end of the global options. -/
theorem findSentinel_front (program : String) (options : List GlobalOption)
    (tokens : List String) :
    findSentinel (front program options ++ tokens)
      = walk (· == "--") valueCount (front program options ++ tokens)
          (front program options).length := by
  have hblocks : ∀ block ∈ options.map GlobalOption.tokens,
      IsBlock (· == "--") valueCount block := by
    intro block hmem
    obtain ⟨option, _, rfl⟩ := List.mem_map.mp hmem
    exact option.isBlock
  rw [findSentinel_eq]
  exact walk_flatten [program] tokens hblocks

/-- The loop finds the sentinel behind the global options. -/
theorem findSentinel_sentinelForm (program : String) (options : List GlobalOption)
    (args rest : List String) :
    findSentinel (sentinelForm program options args rest)
      = some (some (front program options).length) := by
  unfold sentinelForm
  rw [findSentinel_front]
  exact walk_here _ _ rfl

/-- The values of `--server-arg` are stepped over, so the loop finds nothing. -/
theorem findSentinel_serverArgForm (program : String) (options : List GlobalOption)
    (args : List String) {rest : List String} (hrest : "--" ∉ rest) :
    findSentinel (serverArgForm program options args rest) = some none := by
  have hblocks : ∀ block ∈ args.map fun arg => ["--server-arg", arg],
      IsBlock (· == "--") valueCount block := by
    intro block hmem
    obtain ⟨arg, _, rfl⟩ := List.mem_map.mp hmem
    exact ⟨"--server-arg", [arg], rfl, rfl, rfl⟩
  have hmiss : ∀ tok ∈ rest, (tok == "--") = false := by
    intro tok htok
    simp only [beq_eq_false_iff_ne]
    intro heq
    exact hrest (heq ▸ htok)
  unfold serverArgForm serverArgTokens
  rw [findSentinel_front, walk_flatten _ _ hblocks, ← List.append_assoc]
  exact walk_miss _ _ hmiss

/-- The sentinel form is parsed without its launcher arguments, and they come last. -/
theorem commandLine_sentinelForm (parse : List String → Option Cli) (program : String)
    (options : List GlobalOption) {args rest : List String}
    (hargs : ∀ arg ∈ args, arg ∉ SUBCOMMAND_NAMES)
    (hrest : ∃ name tail, rest = name :: tail ∧ name ∈ SUBCOMMAND_NAMES) :
    commandLine parse (sentinelForm program options args rest)
      = (parse (front program options ++ rest)).map fun cli =>
          { cli with serverArgs := cli.serverArgs ++ args } := by
  have hsplit := splitSentinel_cut (findSentinel_sentinelForm program options args rest) hargs
    (Or.inr hrest)
  unfold commandLine sentinelForm
  rw [hsplit]
  show (parse (front program options ++ rest)).bind _ = _
  cases parse (front program options ++ rest) <;> rfl

/-- The `--server-arg` form is left to clap. -/
theorem commandLine_serverArgForm (parse : List String → Option Cli) (program : String)
    (options : List GlobalOption) (args : List String) {rest : List String}
    (hrest : "--" ∉ rest) :
    commandLine parse (serverArgForm program options args rest)
      = parse (serverArgForm program options args rest) := by
  unfold commandLine splitSentinel
  rw [findSentinel_serverArgForm program options args hrest]
  show (parse (serverArgForm program options args rest)).bind _ = _
  cases parse (serverArgForm program options args rest) with
  | none => rfl
  | some cli => simp

/-- Clap collects the launcher arguments in order, in front of the others. -/
theorem CollectsServerArgs.parse_eq {parse : List String → Option Cli}
    (h : CollectsServerArgs parse) (program : String) (options : List GlobalOption)
    (args : List String) {rest : List String} (hrest : IsCommandPart rest)
    (heq : NoServerArgEq rest) :
    parse (serverArgForm program options args rest)
      = (parse (front program options ++ rest)).map fun cli =>
          { cli with serverArgs := args ++ cli.serverArgs } := by
  induction args with
  | nil =>
      show parse (front program options ++ rest) = _
      cases parse (front program options ++ rest) <;> rfl
  | cons arg args ih =>
      rw [h.occurrence program options arg args rest hrest heq, ih, Option.map_map]
      rfl

/-- The two forms give the same command line. -/
theorem commandLine_forms {parse : List String → Option Cli} (h : CollectsServerArgs parse)
    (program : String) (options : List GlobalOption) {args rest : List String}
    (hargs : ∀ arg ∈ args, arg ∉ SUBCOMMAND_NAMES) (hrest : IsCommandPart rest)
    (heq : NoServerArgEq rest) :
    commandLine parse (sentinelForm program options args rest)
      = commandLine parse (serverArgForm program options args rest) := by
  have hname : ∃ name tail, rest = name :: tail ∧ name ∈ SUBCOMMAND_NAMES := by
    obtain ⟨name, hmem, hhead⟩ := hrest.name
    obtain ⟨tail, htail⟩ := List.head?_eq_some_iff.mp hhead
    exact ⟨name, tail, htail, hmem⟩
  rw [commandLine_sentinelForm parse program options hargs hname,
    commandLine_serverArgForm parse program options args hrest.noSentinel,
    h.parse_eq program options args hrest heq]
  -- Clap collects nothing of its own, so both lists are the launcher arguments.
  cases hparse : parse (front program options ++ rest) with
  | none => rfl
  | some cli =>
      have hnil := h.absent program options rest cli hrest heq hparse
      simp [hnil]

/-! ### Clap on `org tools list` -/

/-- The effect of a global option on the options of its level. -/
def GlobalOption.effect : GlobalOption → Globals → Option Globals
  | .compact => setCompact
  | .server v => fun here =>
      if TakesValue "--server" v then setOption "--server" v here else none
  | .timeout v => fun here =>
      if TakesValue "--timeout" v then setOption "--timeout" v here else none
  | .serverEq v => setOption "--server" v
  | .timeoutEq v => setOption "--timeout" v

/-- The options of a level with one more launcher argument in front. -/
def Globals.addServerArg (arg : String) (here : Globals) : Globals :=
  { here with serverArgs := arg :: here.serverArgs }

/-- A change of the first level leaves the others alone. -/
theorem Levels.change_eq_some {f : Globals → Option Globals} {levels levels' : Levels}
    (h : levels.change f = some levels') : f levels.1 = some levels'.1 ∧ levels'.2 = levels.2 := by
  obtain ⟨here, hf, rfl⟩ := Option.map_eq_some_iff.mp h
  exact ⟨hf, rfl⟩

/-- A token with a `=` sets the option before it. -/
theorem parseTokens_eq (words : List String) (name v : String) (rest : List String)
    (h : '=' ∉ name.toList) :
    parseTokens words ((name ++ "=" ++ v) :: rest)
      = (parseTokens words rest).bind (Levels.change (setOption name v)) := by
  have hsplit : splitOnce (name ++ "=" ++ v) '=' = some (name, v) := by
    rw [splitOnce_eq_some_iff]
    exact ⟨by simp [String.toList_append], h⟩
  have hmem : '=' ∈ (name ++ "=" ++ v).toList := by simp [String.toList_append]
  obtain ⟨_, hcompact, hvalue⟩ := ne_flag_of_eq hmem
  rw [parseTokens.eq_def]
  simp only [hcompact, hvalue, if_false, hsplit]

/-- A flag with its value behind it sets the option, if the value can be one. -/
theorem parseTokens_value (words : List String) {flag : String} (v : String) (rest : List String)
    (hcompact : flag ≠ "--compact") (hflag : flag ∈ valueFlags) :
    parseTokens words (flag :: v :: rest)
      = (parseTokens words rest).bind (Levels.change fun here =>
          if TakesValue flag v then setOption flag v here else none) := by
  rw [parseTokens.eq_def]
  simp only [hcompact, hflag, if_false, if_true]
  by_cases hvalue : TakesValue flag v
  · simp only [if_pos hvalue]
  · simp only [if_neg hvalue]
    cases parseTokens words rest <;> rfl

/-- A global option in front is parsed last. -/
theorem parseTokens_option (words : List String) (option : GlobalOption) (rest : List String) :
    parseTokens words (option.tokens ++ rest)
      = (parseTokens words rest).bind (Levels.change option.effect) := by
  cases option with
  | compact =>
      show parseTokens words ("--compact" :: rest) = _
      rw [parseTokens.eq_def]
      rfl
  | server v => exact parseTokens_value words v rest (by decide) (by decide)
  | timeout v => exact parseTokens_value words v rest (by decide) (by decide)
  | serverEq v => exact parseTokens_eq words "--server" v rest (by decide)
  | timeoutEq v => exact parseTokens_eq words "--timeout" v rest (by decide)

/-- A launcher argument in front is parsed last. -/
theorem parseTokens_arg (words : List String) (arg : String) (rest : List String) :
    parseTokens words ("--server-arg" :: arg :: rest)
      = (parseTokens words rest).map (Prod.map (Globals.addServerArg arg) id) := by
  rw [parseTokens_value words arg rest (by decide) (by decide)]
  exact Option.map_eq_bind.symm

/-- An option other than `--server-arg` leaves the launcher arguments as they are. -/
theorem setOption_serverArgs {name v : String} {here here' : Globals}
    (hname : name ≠ "--server-arg") (h : setOption name v here = some here') :
    here'.serverArgs = here.serverArgs := by
  unfold setOption at h
  rw [if_neg hname] at h
  split_ifs at h
  · rw [← Option.some.inj h]
  · obtain ⟨n, _, rfl⟩ := Option.map_eq_some_iff.mp h
    rfl

/-- A global option leaves the launcher arguments as they are. -/
theorem GlobalOption.effect_serverArgs (option : GlobalOption) {here here' : Globals}
    (h : option.effect here = some here') : here'.serverArgs = here.serverArgs := by
  cases option with
  | compact =>
      simp only [GlobalOption.effect, setCompact] at h
      split_ifs at h
      rw [← Option.some.inj h]
  | server v | timeout v =>
      simp only [GlobalOption.effect] at h
      split_ifs at h
      exact setOption_serverArgs (by decide) h
  | serverEq v | timeoutEq v => exact setOption_serverArgs (by decide) h

/-- An option other than `--server-arg` has the same effect with one more launcher
argument. -/
theorem setOption_addServerArg {name : String} (v arg : String) (here : Globals)
    (hname : name ≠ "--server-arg") :
    setOption name v (here.addServerArg arg)
      = (setOption name v here).map (Globals.addServerArg arg) := by
  unfold setOption
  rw [if_neg hname, if_neg hname]
  show (if name = "--server" ∧ here.server = none then _
    else if name = "--timeout" ∧ here.timeout = none then _ else _) = _
  split_ifs
  · rfl
  · cases parseU64 v <;> rfl
  · rfl

/-- A global option has the same effect with one more launcher argument. -/
theorem GlobalOption.effect_addServerArg (option : GlobalOption) (arg : String)
    (here : Globals) :
    option.effect (here.addServerArg arg)
      = (option.effect here).map (Globals.addServerArg arg) := by
  cases option with
  | compact =>
      show (if here.compact then none else some _) = (if here.compact then none else some _).map _
      split_ifs <;> rfl
  | server v | timeout v =>
      simp only [GlobalOption.effect]
      split_ifs
      · exact setOption_addServerArg v arg here (by decide)
      · rfl
  | serverEq v | timeoutEq v => exact setOption_addServerArg v arg here (by decide)

/-- A launcher argument behind the global options is added to what is parsed without it. -/
theorem parseTokens_serverArg (words : List String) (options : List GlobalOption)
    (arg : String) (rest : List String) :
    parseTokens words ((options.map GlobalOption.tokens).flatten ++ "--server-arg" :: arg :: rest)
      = (parseTokens words ((options.map GlobalOption.tokens).flatten ++ rest)).map
          (Prod.map (Globals.addServerArg arg) id) := by
  induction options with
  | nil => exact parseTokens_arg words arg rest
  | cons option options ih =>
      rw [List.map_cons, List.flatten_cons, List.append_assoc, List.append_assoc,
        parseTokens_option, parseTokens_option, ih]
      -- The option's effect does not depend on the launcher arguments.
      cases parseTokens words ((options.map GlobalOption.tokens).flatten ++ rest) with
      | none => rfl
      | some levels =>
          obtain ⟨here, below⟩ := levels
          show (option.effect (here.addServerArg arg)).map _ = ((option.effect here).map _).map _
          rw [option.effect_addServerArg, Option.map_map, Option.map_map]
          rfl

/-- Global options leave the launcher arguments of every level as they are. -/
theorem parseTokens_front {words : List String} {options : List GlobalOption}
    {rest : List String} {levels : Levels}
    (h : parseTokens words ((options.map GlobalOption.tokens).flatten ++ rest) = some levels) :
    ∃ here, parseTokens words rest = some (here, levels.2) ∧
      levels.1.serverArgs = here.serverArgs := by
  induction options generalizing levels with
  | nil => exact ⟨levels.1, h, rfl⟩
  | cons option options ih =>
      rw [List.map_cons, List.flatten_cons, List.append_assoc, parseTokens_option] at h
      obtain ⟨levels', hlevels, hchange⟩ := Option.bind_eq_some_iff.mp h
      obtain ⟨heffect, hbelow⟩ := Levels.change_eq_some hchange
      obtain ⟨here, hrest, hkeep⟩ := ih hlevels
      rw [hbelow]
      exact ⟨here, hrest, (option.effect_serverArgs heffect).trans hkeep⟩

/-- Launcher arguments before the subcommand belong to the first level. -/
theorem parseTokens_args {words args rest : List String} {levels : Levels}
    (h : parseTokens words (serverArgTokens args ++ rest) = some levels) :
    ∃ here, parseTokens words rest = some (here, levels.2) := by
  induction args generalizing levels with
  | nil => exact ⟨levels.1, h⟩
  | cons arg args ih =>
      have harg := (parseTokens_arg words arg (serverArgTokens args ++ rest)).symm.trans h
      obtain ⟨levels', hlevels, hadd⟩ := Option.map_eq_some_iff.mp harg
      obtain ⟨here, hrest⟩ := ih hlevels
      rw [← hadd]
      exact ⟨here, hrest⟩

/-- A token of the form `--server-arg=v` is the only one with a `=` that sets a launcher
argument. -/
theorem ne_serverArg_of_splitOnce {tok name v : String}
    (htok : startsWith tok "--server-arg=" = false) (h : splitOnce tok '=' = some (name, v)) :
    name ≠ "--server-arg" := by
  intro hname
  rw [splitOnce_eq_some_iff, hname] at h
  have hstart : startsWith tok "--server-arg=" = true := by
    rw [startsWith_iff]
    refine ⟨v, String.toList_injective ?_⟩
    rw [h.1]
    simp [String.toList_append]
  rw [htok] at hstart
  cases hstart

/-- Without an occurrence of `--server-arg` no level has launcher arguments. -/
theorem parseTokens_serverArgs {words tokens : List String} {levels : Levels}
    (habsent : ∀ tok ∈ tokens, tok ≠ "--server-arg" ∧ startsWith tok "--server-arg=" = false)
    (h : parseTokens words tokens = some levels) :
    levels.1.serverArgs = [] ∧ levels.2.serverArgs = [] := by
  fun_induction parseTokens words tokens generalizing levels with
  | case1 =>
      rw [← Option.some.inj h]
      exact ⟨rfl, rfl⟩
  | case2 words hwords => cases h
  | case3 words rest ih =>
      obtain ⟨levels', hlevels, hchange⟩ := Option.bind_eq_some_iff.mp h
      obtain ⟨heffect, hbelow⟩ := Levels.change_eq_some hchange
      have hargs : levels.1.serverArgs = levels'.1.serverArgs :=
        GlobalOption.compact.effect_serverArgs heffect
      rw [hbelow, hargs]
      exact ih (List.forall_mem_cons.mp habsent).2 hlevels
  | case4 words tok hcompact hvalue => cases h
  | case5 words tok hcompact hvalue v rest htakes ih =>
      obtain ⟨htok, hvrest⟩ := List.forall_mem_cons.mp habsent
      obtain ⟨levels', hlevels, hchange⟩ := Option.bind_eq_some_iff.mp h
      obtain ⟨hset, hbelow⟩ := Levels.change_eq_some hchange
      rw [hbelow, setOption_serverArgs htok.1 hset]
      exact ih (List.forall_mem_cons.mp hvrest).2 hlevels
  | case6 words tok hcompact hvalue v rest htakes => cases h
  | case7 words tok rest hcompact hvalue name v hsplit ih =>
      obtain ⟨htok, hrest⟩ := List.forall_mem_cons.mp habsent
      obtain ⟨levels', hlevels, hchange⟩ := Option.bind_eq_some_iff.mp h
      obtain ⟨hset, hbelow⟩ := Levels.change_eq_some hchange
      rw [hbelow, setOption_serverArgs (ne_serverArg_of_splitOnce htok.2 hsplit) hset]
      exact ih hrest hlevels
  | case8 words tok rest hcompact hvalue hsplit hhead ih =>
      obtain ⟨levels', hlevels, rfl⟩ := Option.map_eq_some_iff.mp h
      obtain ⟨hhere, hbelow⟩ := ih (List.forall_mem_cons.mp habsent).2 hlevels
      refine ⟨rfl, ?_⟩
      exact (if_pos hbelow).trans hhere
  | case9 words tok rest hcompact hvalue hsplit hhead => cases h

/-- From the subcommand on there are no launcher arguments, when no token from there on sets
one. -/
theorem parseTokens_commandPart {words rest : List String} {levels : Levels}
    (hrest : IsCommandPart rest) (heq : NoServerArgEq rest)
    (h : parseTokens words rest = some levels) :
    levels.1.serverArgs = [] ∧ levels.2.serverArgs = [] := by
  refine parseTokens_serverArgs (fun tok htok => ⟨?_, heq tok htok⟩) h
  intro hname
  exact hrest.noServerArg (hname ▸ htok)

/-- Clap collects the launcher arguments that stand before the subcommand, when none stands
behind it. -/
theorem parseToolsList_collects (home : Option String) :
    CollectsServerArgs (parseToolsList home) where
  occurrence program options arg args rest hrest heq := by
    unfold parseToolsList
    show ((parseTokens _ (_ ++ "--server-arg" :: arg :: (serverArgTokens args ++ rest))).map _)
      = ((parseTokens _ (_ ++ (serverArgTokens args ++ rest))).map _).map _
    rw [parseTokens_serverArg, Option.map_map, Option.map_map]
    refine Option.map_congr fun levels hlevels => ?_
    -- The deeper levels have none, so the argument comes first.
    obtain ⟨here, hargs, _⟩ := parseTokens_front hlevels
    obtain ⟨here', hpart⟩ := parseTokens_args hargs
    have hbelow := (parseTokens_commandPart hrest heq hpart).2
    simp only at hbelow
    simp [Globals.toolsList, Globals.override, Globals.addServerArg, Cli.withServerArg, hbelow]
  absent program options rest cli hrest heq h := by
    obtain ⟨levels, hlevels, rfl⟩ := Option.map_eq_some_iff.mp h
    obtain ⟨here, hpart, hkeep⟩ := parseTokens_front hlevels
    obtain ⟨hhere, hbelow⟩ := parseTokens_commandPart hrest heq hpart
    show (if levels.2.serverArgs = [] then levels.1.serverArgs else levels.2.serverArgs) = []
    rw [if_pos hbelow, hkeep]
    exact hhere

/-! ### The launcher -/

/-- Launcher arguments behind a `--` start the same server with the same command as the same
arguments behind `--server-arg` flags. -/
theorem launcherForms_agree (parse : List String → Option Cli)
    (h : CollectsServerArgs parse) (program : String) (options : List GlobalOption)
    (args rest : List String) (hargs : ∀ arg ∈ args, arg ∉ SUBCOMMAND_NAMES)
    (hrest : IsCommandPart rest) (heq : NoServerArgEq rest) :
    (commandLine parse (sentinelForm program options args rest)).map
        (fun cli => (cli.serverArgv, cli.command))
      = (commandLine parse (serverArgForm program options args rest)).map
        (fun cli => (cli.serverArgv, cli.command)) := by
  rw [commandLine_forms h program options hargs hrest heq]

/-- The two forms with `--socket /tmp/s` for `org --server mcp.sh --compact tools list`. -/
theorem launcherForms_agree_toolsList :
    (commandLine (parseToolsList none)
        ["org", "--server", "mcp.sh", "--compact", "--", "--socket", "/tmp/s", "tools",
          "list"]).map (fun cli => (cli.serverArgv, cli.command))
      = some (["mcp.sh", "--socket", "/tmp/s"], .tools .list) ∧
    (commandLine (parseToolsList none)
        ["org", "--server", "mcp.sh", "--compact", "--", "--socket", "/tmp/s", "tools",
          "list"]).map (fun cli => (cli.serverArgv, cli.command))
      = (commandLine (parseToolsList none)
        ["org", "--server", "mcp.sh", "--compact", "--server-arg", "--socket", "--server-arg",
          "/tmp/s", "tools", "list"]).map (fun cli => (cli.serverArgv, cli.command)) := by
  refine ⟨by decide +kernel, ?_⟩
  exact launcherForms_agree (parseToolsList none) (parseToolsList_collects none) "org"
    [.server "mcp.sh", .compact] ["--socket", "/tmp/s"] ["tools", "list"]
    (by simp [SUBCOMMAND_NAMES]) ⟨⟨"tools", by simp [SUBCOMMAND_NAMES], rfl⟩, by simp, by simp⟩
    (by unfold NoServerArgEq; decide)

/-- With `--server-arg=x` behind the subcommand the forms differ. It replaces the occurrence
before the subcommand, and what stands behind the `--` is added after it. -/
theorem launcherForms_serverArgEq_differ :
    CollectsServerArgs (parseToolsList none) ∧ "y" ∉ SUBCOMMAND_NAMES ∧
      IsCommandPart ["tools", "list", "--server-arg=x"] ∧
      (commandLine (parseToolsList none)
        (sentinelForm "org" [.server "mcp.sh"] ["y"] ["tools", "list", "--server-arg=x"])).map
          Cli.serverArgv = some ["mcp.sh", "x", "y"] ∧
      (commandLine (parseToolsList none)
        (serverArgForm "org" [.server "mcp.sh"] ["y"] ["tools", "list", "--server-arg=x"])).map
          Cli.serverArgv = some ["mcp.sh", "x"] := by
  refine ⟨parseToolsList_collects none, by simp [SUBCOMMAND_NAMES],
    ⟨⟨"tools", by simp [SUBCOMMAND_NAMES], rfl⟩, by simp, by simp⟩, ?_, ?_⟩
  · decide +kernel
  · decide +kernel

end OrgCli
