import Spine.App.HostList
import Spine.Config.Settings

/-!
# The command line

`parse_command_line` of `app/cli.c` goes through the arguments of the program.  The
value of an option stands in the same argument after an equals sign, or it is the
next argument, which `getarg` then takes.

* `lookupCliOption`, `getarg`, `parseCliArgument` and `parseCommandLine` are the
  functions.  `alloc k` says whether the `k`-th copy of a file name succeeds.
* `parseCliArgument_takesValue` and `parseCliArgument_plain`: what an argument does
  depends on its value and not on where the value stood.
* `parseArgument_cases`: a successful turn of the loop takes the next argument or
  does not look at it.
* `parseArguments_of_comesTo`: two vectors that agree up to a position that is
  reached are in step there.
-/

namespace Spine

open Base.CString

def MAX_THREADS : Int32 := 100

/-! ## Options -/

/-- `cli_option_t`. -/
inductive CliOption where
  | first
  | last
  | poller
  | threads
  | pingOnly
  | mode
  | hostList
  | mibs
  | help
  | version
  | option
  | readOnly
  | conf
  | stdout
  | log
  | verbosity
  | unknown
  deriving DecidableEq

/-- `cli_alias_t`. -/
structure CliAlias where
  name : Text
  option : CliOption
  ignoreCase : Bool

/-- `aliases` of `lookup_cli_option`. -/
def cliAliases : List CliAlias :=
  [⟨lit "-f", .first, true⟩,
   ⟨lit "--first", .first, false⟩,
   ⟨lit "-l", .last, true⟩,
   ⟨lit "--last", .last, true⟩,
   ⟨lit "-p", .poller, false⟩,
   ⟨lit "--poller", .poller, true⟩,
   ⟨lit "-t", .threads, false⟩,
   ⟨lit "--threads", .threads, true⟩,
   ⟨lit "-P", .pingOnly, false⟩,
   ⟨lit "--pingonly", .pingOnly, true⟩,
   ⟨lit "-N", .mode, false⟩,
   ⟨lit "--mode", .mode, true⟩,
   ⟨lit "-H", .hostList, false⟩,
   ⟨lit "--hostlist", .hostList, true⟩,
   ⟨lit "-M", .mibs, true⟩,
   ⟨lit "--mibs", .mibs, false⟩,
   ⟨lit "-h", .help, true⟩,
   ⟨lit "--help", .help, false⟩,
   ⟨lit "-v", .version, false⟩,
   ⟨lit "--version", .version, false⟩,
   ⟨lit "-O", .option, true⟩,
   ⟨lit "--option", .option, true⟩,
   ⟨lit "-R", .readOnly, true⟩,
   ⟨lit "--readonly", .readOnly, false⟩,
   ⟨lit "--read-only", .readOnly, false⟩,
   ⟨lit "-C", .conf, true⟩,
   ⟨lit "--conf", .conf, false⟩,
   ⟨lit "-S", .stdout, true⟩,
   ⟨lit "--stdout", .stdout, false⟩,
   ⟨lit "-D", .log, true⟩,
   ⟨lit "--log", .log, false⟩,
   ⟨lit "-V", .verbosity, false⟩,
   ⟨lit "--verbosity", .verbosity, false⟩]

def CliAlias.matches (entry : CliAlias) (arg : Text) : Bool :=
  if entry.ignoreCase then strcaseeq arg entry.name else arg == entry.name

/-- `lookup_cli_option`. -/
def lookupCliOption (arg : Text) : CliOption :=
  match cliAliases.find? fun entry => entry.matches arg with
  | some entry => entry.option
  | none => .unknown

/-- The options whose case in `parse_cli_argument` calls `getarg`. -/
def CliOption.takesValue : CliOption → Bool
  | .first | .last | .poller | .threads | .mode | .hostList | .option | .conf | .log
  | .verbosity => true
  | _ => false

/-! ## The configuration -/

/-- What the command line sets, and what is printed on the way. -/
structure Cli where
  startHostId : Int32
  endHostId : Int32
  pollerId : Int32
  threads : Int32
  threadsSet : Bool
  pingOnly : Bool
  mode : PollerMode
  hostIdList : Text
  mibs : Int32
  sqlReadonly : Bool
  opttable : List (Text × Text)
  confFile : Option Text
  /-- The copies of a file name so far. -/
  copies : Nat
  stderr : List Text
  deriving DecidableEq

/-- The ways in which the parsing ends the process: `die` with its message, and the
help or the version text. -/
inductive CliEnd where
  | die (message : Text)
  | displayHelp (onlyVersion : Bool)
  deriving DecidableEq

/-- `HOSTID_DEFINED`. -/
def hostIdDefined (id : Int32) : Bool := 0 ≤ id

/-- `all_digits`. -/
def allDigits (text : Text) : Bool := !text.isEmpty && text.all isDigit

/-- `parse_cli_int`. -/
def parseCliInt (text : Text) (minimum maximum : Int) : Option Int32 :=
  if (text.head?.all fun b => !isDigit b) || !(strtolRest text).isEmpty then none
  else if strtol text > llongMax ∨ strtol text < minimum ∨ strtol text > maximum then none
  else some (Int32.ofInt (strtol text))

/-- `parse_polling_mode`. -/
def parsePollingMode (requestedMode : Text) (cli : Cli) : Except CliEnd Cli :=
  if strcaseeq requestedMode (lit "online") then .ok { cli with mode := .online }
  else if strcaseeq requestedMode (lit "offline") then .ok { cli with mode := .offline }
  else if strcaseeq requestedMode (lit "recovery") then .ok { cli with mode := .recovery }
  else .error (.die (lit "ERROR: invalid polling mode '" ++ requestedMode ++ lit "' specified"))

/-- The call of `set_option`. -/
def overrideSetting (option value : Text) (cli : Cli) : Except CliEnd Cli :=
  match setOption cli.opttable option value with
  | some opttable => .ok { cli with opttable := opttable }
  | none => .error (.die (lit "ERROR: Invalid or excessive command-line setting overrides"))

/-- `getarg`: the value of an option and the arguments that are left. -/
def getarg (optname : Text) (opt : Option Text) (rest : List Text) :
    Except CliEnd (Text × List Text) :=
  match opt, rest with
  | some value, rest => .ok (value, rest)
  | none, value :: rest => .ok (value, rest)
  | none, [] =>
    .error (.die (lit "ERROR: option " ++ optname ++ lit " requires a parameter"))

/-- A case of `parse_cli_argument` that uses the value of its option. -/
def withArgument (arg : Text) (opt : Option Text) (rest : List Text)
    (use : Text → Except CliEnd Cli) : Except CliEnd (Cli × List Text) :=
  match getarg arg opt rest with
  | .error stop => .error stop
  | .ok (value, rest) => (use value).map fun cli => (cli, rest)

/-! ## Arguments -/

def dieUsedOnce (arg : Text) : CliEnd :=
  .die (lit "ERROR: " ++ arg ++ lit " can only be used once")

/-- A host id, or the end of the process with the given message. -/
def requireHostId (message text : Text) : Except CliEnd Int32 :=
  match parseCliInt text 0 INT_MAX with
  | some id => .ok id
  | none => .error (.die message)

/-- The value of `-f`. -/
def useFirst (arg : Text) (cli : Cli) (opt : Text) : Except CliEnd Cli :=
  let message := lit "ERROR: '" ++ arg ++ lit "=" ++ opt ++ lit "' is invalid first-host ID"
  (requireHostId message opt).map fun id => { cli with startHostId := id }

/-- The value of `-l`. -/
def useLast (arg : Text) (cli : Cli) (opt : Text) : Except CliEnd Cli :=
  let message := lit "ERROR: '" ++ arg ++ lit "=" ++ opt ++ lit "' is invalid last-host ID"
  (requireHostId message opt).map fun id => { cli with endHostId := id }

/-- The value of `-t`. -/
def useThreads (arg : Text) (cli : Cli) (opt : Text) : Except CliEnd Cli :=
  match parseCliInt opt 1 INT_MAX with
  | none =>
    .error (.die (lit "ERROR: '" ++ arg ++ lit "=" ++ opt ++
      lit "' is an invalid thread count, use 1 to " ++ decimalInt MAX_THREADS.toInt))
  | some threads =>
    if threads > MAX_THREADS then
      .ok { cli with
        threads := MAX_THREADS
        threadsSet := true
        stderr := cli.stderr ++ [lit "WARNING: '" ++ arg ++ lit "=" ++ opt ++
          lit "' exceeds the maximum thread count, using " ++ decimalInt MAX_THREADS.toInt ++
          lit "\n"] }
    else .ok { cli with threads := threads, threadsSet := true }

/-- The value of `-H`. -/
def useHostList (cli : Cli) (opt : Text) : Except CliEnd Cli :=
  match parseHostList opt with
  | some hostIdList => .ok { cli with hostIdList := hostIdList }
  | none => .error (.die (lit "ERROR: invalid or oversized host list"))

/-- The value of `-O`. -/
def useOption (cli : Cli) (setting : Text) : Except CliEnd Cli :=
  match strchr setting 58 with
  | some (name, value) =>
    if name.isEmpty then .error (.die (lit "ERROR: -O requires setting:value"))
    else overrideSetting name value cli
  | none => .error (.die (lit "ERROR: -O requires setting:value"))

/-- The value of `-C`. -/
def useConf (alloc : Nat → Bool) (cli : Cli) (opt : Text) : Except CliEnd Cli :=
  if alloc cli.copies then .ok { cli with confFile := some opt, copies := cli.copies + 1 }
  else .error (.die (lit "ERROR: Fatal malloc error: spine.c conf_file!"))

/-- The default case: a first or a last host id by itself. -/
def bareArgument (arg : Text) (cli : Cli) : Except CliEnd Cli :=
  if !hostIdDefined cli.startHostId && allDigits arg then
    (requireHostId (lit "ERROR: '" ++ arg ++ lit "' is invalid first-host ID") arg).map
      fun id => { cli with startHostId := id }
  else if !hostIdDefined cli.endHostId && allDigits arg then
    (requireHostId (lit "ERROR: '" ++ arg ++ lit "' is invalid last-host ID") arg).map
      fun id => { cli with endHostId := id }
  else .error (.die (lit "ERROR: " ++ arg ++ lit " is an unknown command-line parameter"))

/-- `parse_cli_argument`, with the arguments that follow, and those that are left. -/
def parseCliArgument (alloc : Nat → Bool) (arg : Text) (opt : Option Text) (rest : List Text)
    (cli : Cli) : Except CliEnd (Cli × List Text) :=
  match lookupCliOption arg with
  | .first =>
    if hostIdDefined cli.startHostId then .error (dieUsedOnce arg)
    else withArgument arg opt rest (useFirst arg cli)
  | .last =>
    if hostIdDefined cli.endHostId then .error (dieUsedOnce arg)
    else withArgument arg opt rest (useLast arg cli)
  | .poller => withArgument arg opt rest fun opt => .ok { cli with pollerId := atoi opt }
  | .threads => withArgument arg opt rest (useThreads arg cli)
  | .pingOnly => .ok ({ cli with pingOnly := true }, rest)
  | .mode => withArgument arg opt rest fun opt => parsePollingMode opt cli
  | .hostList => withArgument arg opt rest (useHostList cli)
  | .mibs => .ok ({ cli with mibs := 1 }, rest)
  | .help => .error (.displayHelp false)
  | .version => .error (.displayHelp true)
  | .option => withArgument arg opt rest (useOption cli)
  | .readOnly => .ok ({ cli with sqlReadonly := true }, rest)
  | .conf => withArgument arg opt rest (useConf alloc cli)
  | .stdout =>
    (overrideSetting (lit "log_destination") (lit "STDOUT") cli).map fun cli => (cli, rest)
  | .log => withArgument arg opt rest fun opt => overrideSetting (lit "log_destination") opt cli
  | .verbosity => withArgument arg opt rest fun opt => overrideSetting (lit "log_verbosity") opt cli
  | .unknown => (bareArgument arg cli).map fun cli => (cli, rest)

/-- The body of the loop of `parse_command_line`: the argument is cut at its first
equals sign. -/
def parseArgument (alloc : Nat → Bool) (argument : Text) (rest : List Text) (cli : Cli) :
    Except CliEnd (Cli × List Text) :=
  match strchr argument 61 with
  | none => parseCliArgument alloc argument none rest cli
  | some (arg, opt) => parseCliArgument alloc arg (some opt) rest cli

section Shape

variable (alloc : Nat → Bool) {arg : Text} (cli : Cli)

/-- An option with a value either stops at once or uses what `getarg` gives it. -/
theorem parseCliArgument_takesValue (h : (lookupCliOption arg).takesValue = true) :
    (∃ stop, ∀ opt rest, parseCliArgument alloc arg opt rest cli = .error stop) ∨
      ∃ use, ∀ opt rest,
        parseCliArgument alloc arg opt rest cli = withArgument arg opt rest use := by
  unfold parseCliArgument
  cases hoption : lookupCliOption arg with
  | first =>
    by_cases hdefined : hostIdDefined cli.startHostId = true
    · exact Or.inl ⟨_, fun _ _ => if_pos hdefined⟩
    · exact Or.inr ⟨_, fun _ _ => if_neg hdefined⟩
  | last =>
    by_cases hdefined : hostIdDefined cli.endHostId = true
    · exact Or.inl ⟨_, fun _ _ => if_pos hdefined⟩
    · exact Or.inr ⟨_, fun _ _ => if_neg hdefined⟩
  | poller | threads | mode | hostList | option | conf | log | verbosity =>
    exact Or.inr ⟨_, fun _ _ => rfl⟩
  | pingOnly | mibs | help | version | readOnly | stdout | unknown =>
    rw [hoption] at h
    cases h

/-- Any other argument leaves the ones after it alone. -/
theorem parseCliArgument_plain (h : (lookupCliOption arg).takesValue = false) :
    ∃ result : Except CliEnd Cli, ∀ opt rest,
      parseCliArgument alloc arg opt rest cli = result.map fun cli => (cli, rest) := by
  unfold parseCliArgument
  cases hoption : lookupCliOption arg with
  | first | last | poller | threads | mode | hostList | option | conf | log | verbosity =>
    rw [hoption] at h
    cases h
  | pingOnly | mibs | readOnly => exact ⟨.ok _, fun _ _ => rfl⟩
  | help | version => exact ⟨.error _, fun _ _ => rfl⟩
  | stdout | unknown => exact ⟨_, fun _ _ => rfl⟩

variable {alloc cli}

theorem map_eq_ok {α β : Type*} {result : Except CliEnd α} {f : α → β} {b : β}
    (h : result.map f = .ok b) : ∃ a, result = .ok a ∧ f a = b := by
  cases result with
  | error stop => cases h
  | ok a => exact ⟨a, rfl, Except.ok.inj h⟩

theorem withArgument_cases {opt : Option Text} {rest left : List Text} {next : Cli}
    {use : Text → Except CliEnd Cli} (h : withArgument arg opt rest use = .ok (next, left)) :
    (left = rest ∧ ∀ other, withArgument arg opt other use = .ok (next, other)) ∨
      ∃ value, rest = value :: left ∧
        ∀ other, withArgument arg opt (value :: other) use = .ok (next, other) := by
  cases opt with
  | some value =>
    obtain ⟨result, huse, hpair⟩ := map_eq_ok (h : (use value).map _ = _)
    cases hpair
    left
    refine ⟨rfl, fun other => ?_⟩
    show (use value).map (fun cli => (cli, other)) = _
    rw [huse]
    rfl
  | none =>
    cases rest with
    | nil => cases h
    | cons value rest =>
      obtain ⟨result, huse, hpair⟩ := map_eq_ok (h : (use value).map _ = _)
      cases hpair
      right
      refine ⟨value, rfl, fun other => ?_⟩
      show (use value).map (fun cli => (cli, other)) = _
      rw [huse]
      rfl

theorem parseCliArgument_cases {opt : Option Text} {rest left : List Text} {next : Cli}
    (h : parseCliArgument alloc arg opt rest cli = .ok (next, left)) :
    (left = rest ∧ ∀ other, parseCliArgument alloc arg opt other cli = .ok (next, other)) ∨
      ∃ value, rest = value :: left ∧
        ∀ other, parseCliArgument alloc arg opt (value :: other) cli = .ok (next, other) := by
  by_cases hvalue : (lookupCliOption arg).takesValue = true
  · rcases parseCliArgument_takesValue alloc cli hvalue with ⟨stop, hstop⟩ | ⟨use, huse⟩
    · rw [hstop] at h
      cases h
    · simp only [huse] at h ⊢
      exact withArgument_cases h
  · obtain ⟨result, hresult⟩ :=
      parseCliArgument_plain alloc cli (Bool.eq_false_of_not_eq_true hvalue)
    simp only [hresult] at h ⊢
    obtain ⟨after, rfl, hpair⟩ := map_eq_ok h
    cases hpair
    exact Or.inl ⟨rfl, fun _ => rfl⟩

/-- A turn of the loop takes the next argument, whatever follows, or does not look
at what follows. -/
theorem parseArgument_cases {argument : Text} {rest left : List Text} {next : Cli}
    (h : parseArgument alloc argument rest cli = .ok (next, left)) :
    (left = rest ∧ ∀ other, parseArgument alloc argument other cli = .ok (next, other)) ∨
      ∃ value, rest = value :: left ∧
        ∀ other, parseArgument alloc argument (value :: other) cli = .ok (next, other) := by
  unfold parseArgument at h ⊢
  cases hcut : strchr argument 61 with
  | none =>
    rw [hcut] at h
    exact parseCliArgument_cases h
  | some cut =>
    rw [hcut] at h
    exact parseCliArgument_cases h

theorem parseArgument_length_le {argument : Text} {rest left : List Text} {next : Cli}
    (h : parseArgument alloc argument rest cli = .ok (next, left)) :
    left.length ≤ rest.length := by
  rcases parseArgument_cases h with ⟨rfl, -⟩ | ⟨value, rfl, -⟩
  · exact Nat.le_refl _
  · exact Nat.le_succ _

end Shape

/-! ## The loop -/

/-- The loop of `parse_command_line`. -/
def parseArguments (alloc : Nat → Bool) (args : List Text) (cli : Cli) : Except CliEnd Cli :=
  match args with
  | [] => .ok cli
  | argument :: rest =>
    match _h : parseArgument alloc argument rest cli with
    | .error stop => .error stop
    | .ok (next, left) => parseArguments alloc left next
  termination_by args.length
  decreasing_by exact Nat.lt_succ_of_le (parseArgument_length_le _h)

/-- `parse_command_line`.  The first element of the vector is the program. -/
def parseCommandLine (alloc : Nat → Bool) (argv : List Text) (cli : Cli) : Except CliEnd Cli :=
  parseArguments alloc argv.tail cli

/-- The loop comes to the arguments `target` with the configuration `last`. -/
inductive ComesTo (alloc : Nat → Bool) : List Text → Cli → List Text → Cli → Prop
  | here (args : List Text) (cli : Cli) : ComesTo alloc args cli args cli
  | step {argument : Text} {rest left target : List Text} {cli next last : Cli} :
    parseArgument alloc argument rest cli = .ok (next, left) →
      ComesTo alloc left next target last → ComesTo alloc (argument :: rest) cli target last

section Loop

variable {alloc : Nat → Bool} {cli last : Cli}

theorem parseArguments_cons (argument : Text) (rest : List Text) :
    parseArguments alloc (argument :: rest) cli =
      match parseArgument alloc argument rest cli with
      | .error stop => .error stop
      | .ok (next, left) => parseArguments alloc left next := by
  rw [parseArguments]
  cases parseArgument alloc argument rest cli with
  | error stop => rfl
  | ok result => rfl

theorem parseArguments_of_ok {argument : Text} {rest left : List Text} {next : Cli}
    (h : parseArgument alloc argument rest cli = .ok (next, left)) :
    parseArguments alloc (argument :: rest) cli = parseArguments alloc left next := by
  rw [parseArguments_cons, h]

theorem ComesTo.length_le {args target : List Text} (h : ComesTo alloc args cli target last) :
    target.length ≤ args.length := by
  induction h with
  | here => exact Nat.le_refl _
  | step hturn _ ih =>
    have hleft := parseArgument_length_le hturn
    rw [List.length_cons]
    omega

/-- What stands at a position that is reached does not matter for the arguments
before it. -/
theorem parseArguments_of_comesTo {before target : List Text}
    (h : ComesTo alloc (before ++ target) cli target last) (other : List Text) :
    parseArguments alloc (before ++ other) cli = parseArguments alloc other last := by
  generalize hargs : before ++ target = args at h
  induction h generalizing before with
  | here args cli =>
    have hbefore : before = [] := by simpa using hargs
    rw [hbefore, List.nil_append]
  | @step argument rest left target cli next last hturn hreach ih =>
    have hleft := hreach.length_le
    cases before with
    | nil =>
      have hrest := parseArgument_length_le hturn
      rw [List.nil_append] at hargs
      rw [hargs, List.length_cons] at hleft
      omega
    | cons first before =>
      rw [List.cons_append, List.cons.injEq] at hargs
      obtain ⟨rfl, rfl⟩ := hargs
      rw [List.cons_append]
      rcases parseArgument_cases hturn with ⟨rfl, hsame⟩ | ⟨value, hnext, hsame⟩
      · rw [parseArguments_of_ok (hsame (before ++ other)), ih rfl]
      · -- The value that was taken stands before the position.
        cases before with
        | nil =>
          rw [List.nil_append] at hnext
          rw [hnext, List.length_cons] at hleft
          omega
        | cons second before =>
          rw [List.cons_append, List.cons.injEq] at hnext
          obtain ⟨rfl, rfl⟩ := hnext
          rw [List.cons_append, parseArguments_of_ok (hsame (before ++ other)), ih rfl]

end Loop

/-! ## The two forms of an option -/

theorem equals_notMem_of_toLower {name arg : Text} (h : arg.map toLower = name.map toLower)
    (hname : (61 : UInt8) ∉ name.map toLower) : (61 : UInt8) ∉ arg := by
  intro harg
  rw [← h] at hname
  exact hname (List.mem_map_of_mem harg)

/-- No alias has an equals sign. -/
theorem equals_notMem_of_lookup {arg : Text} (h : lookupCliOption arg ≠ .unknown) :
    (61 : UInt8) ∉ arg := by
  have hnames : ∀ entry ∈ cliAliases, (61 : UInt8) ∉ entry.name.map toLower := by decide
  unfold lookupCliOption at h
  cases hfind : cliAliases.find? fun entry => entry.matches arg with
  | none =>
    rw [hfind] at h
    exact absurd rfl h
  | some entry =>
    have hmatch := List.find?_some hfind
    have hname := hnames entry (List.mem_of_find?_eq_some hfind)
    unfold CliAlias.matches at hmatch
    refine equals_notMem_of_toLower ?_ hname
    split at hmatch
    · exact strcaseeq_iff.mp hmatch
    · rw [beq_iff_eq.mp hmatch]

/-- The value of an option may stand in its argument or in the next one. -/
theorem parseArgument_forms {alloc : Nat → Bool} {option value : Text} {cli : Cli}
    (h : (lookupCliOption option).takesValue = true) (rest : List Text) :
    parseArgument alloc (option ++ 61 :: value) rest cli =
      parseArgument alloc option (value :: rest) cli := by
  have hequals : (61 : UInt8) ∉ option := by
    apply equals_notMem_of_lookup
    intro hunknown
    rw [hunknown] at h
    cases h
  unfold parseArgument
  rw [strchr_append hequals, strchr_eq_none hequals]
  show parseCliArgument alloc option (some value) rest cli =
    parseCliArgument alloc option none (value :: rest) cli
  rcases parseCliArgument_takesValue alloc cli h with ⟨stop, hstop⟩ | ⟨use, huse⟩
  · rw [hstop, hstop]
  · rw [huse, huse]
    rfl

/-- `X=V` and `X V` mean the same wherever an option with a value is read. -/
theorem parseCommandLine_forms {alloc : Nat → Bool} {before after : List Text}
    {option value : Text} {cli last : Cli} (hoption : (lookupCliOption option).takesValue = true)
    (hread : ComesTo alloc (before ++ (option ++ 61 :: value) :: after) cli
      ((option ++ 61 :: value) :: after) last) (program : Text) :
    parseCommandLine alloc (program :: (before ++ (option ++ 61 :: value) :: after)) cli =
      parseCommandLine alloc (program :: (before ++ option :: value :: after)) cli := by
  show parseArguments alloc (before ++ (option ++ 61 :: value) :: after) cli =
    parseArguments alloc (before ++ option :: value :: after) cli
  rw [parseArguments_of_comesTo hread, parseArguments_of_comesTo hread, parseArguments_cons,
    parseArguments_cons, parseArgument_forms hoption]

/-- A last host that looks like an option: the message is the same. -/
theorem parseCommandLine_forms_last :
    ∃ (before : List Text) (cli last : Cli),
      ComesTo (fun _ => true) (before ++ (lit "--LAST" ++ 61 :: lit "-P=") :: [lit "-S"]) cli
        ((lit "--LAST" ++ 61 :: lit "-P=") :: [lit "-S"]) last ∧
      parseCommandLine (fun _ => true)
          (lit "spine" :: (before ++ (lit "--LAST" ++ 61 :: lit "-P=") :: [lit "-S"])) cli =
        parseCommandLine (fun _ => true)
          (lit "spine" :: (before ++ lit "--LAST" :: lit "-P=" :: [lit "-S"])) cli := by
  have hread : ComesTo (fun _ => true)
      ([lit "-p", lit "-l"] ++ (lit "--LAST" ++ 61 :: lit "-P=") :: [lit "-S"])
      ⟨-1, -1, 1, 1, false, false, .online, [], 0, false, [], none, 0, []⟩
      ((lit "--LAST" ++ 61 :: lit "-P=") :: [lit "-S"])
      ⟨-1, -1, 0, 1, false, false, .online, [], 0, false, [], none, 0, []⟩ :=
    .step (by rfl) (.here _ _)
  exact ⟨_, _, _, hread, parseCommandLine_forms (by decide) hread _⟩

end Spine
