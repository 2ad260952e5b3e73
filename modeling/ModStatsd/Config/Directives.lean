import ModStatsd.Core.CString
import ModStatsd.Lib.Binary

/-!
# Configuration handlers (`mod_statsd.c`)

The four directives, as functions from the words of a configuration line to the record that
`add_config_param` stores.  What the core and the C library do on the way is a parameter:
`get_boolean`, `strtof` and the regex compiler.

* `parseServer` — the address part of `StatsdServer`, with its bracket cases;
* `setStatsdsampling_iff`, `setStatsdserver_iff` — which lines are accepted, and what they record;
* `CFloat.fraction_cases` — a rate that is stored may be a NaN.
-/

namespace ModStatsd

open Lib

/-! ## Configuration lines -/

/-- Where a directive stands. -/
inductive ConfContext
  | root
  | virtual
  | global
  -- any context `CHECK_CONF` refuses here
  | other
  deriving DecidableEq, Repr

/-- The words of a configuration line, the directive's name first, and its context. -/
structure ConfCmd where
  argv : List CString
  context : ConfContext
  deriving DecidableEq, Repr

inductive ConfError
  -- `CHECK_ARGS` and `CHECK_CONF` of the core
  | missingArgs
  | wrongContext
  -- `CONF_ERROR(cmd, text)`
  | message (text : CString)
  deriving DecidableEq, Repr

def checkArgs (cmd : ConfCmd) (n : Nat) : Bool :=
  decide (n < cmd.argv.length)

def checkConf (cmd : ConfCmd) : Bool :=
  decide (cmd.context ≠ .other)

/-! ## StatsdEngine -/

def setStatsdengine (getBoolean : CString → Option Bool) (cmd : ConfCmd) : Except ConfError Bool :=
  match checkArgs cmd 1, checkConf cmd, cmd.argv[1]? with
  | true, true, some arg =>
      match getBoolean arg with
      | some engine => .ok engine
      | none => .error (.message (CString.lit "expected Boolean parameter"))
  | true, false, _ => .error .wrongContext
  | _, _, _ => .error .missingArgs

/-! ## StatsdExcludeFilter -/

/-- The pattern and what it matches; `none` for the filter `none`. -/
def setStatsdexcludefilter {Regex : Type} (compile : CString → Except CString Regex)
    (cmd : ConfCmd) : Except ConfError (Option (CString × Regex)) :=
  match checkArgs cmd 1, checkConf cmd, cmd.argv[1]? with
  | true, true, some pattern =>
      if pattern.chars.map Char.toLower = "none".toList then .ok none
      else
        match compile pattern with
        | .ok pre => .ok (some (pattern, pre))
        | .error errstr =>
            .error (.message ((((CString.lit "'").pstrcat pattern).pstrcat
              (CString.lit "' failed regex compilation: ")).pstrcat errstr))
  | true, false, _ => .error .wrongContext
  | _, _, _ => .error .missingArgs

/-! ## StatsdSampling -/

/-- A `float`; the sign of a zero is left out. -/
inductive CFloat
  | nan
  | inf (negative : Bool)
  | num (q : ℚ)
  deriving DecidableEq, Repr

namespace CFloat

/-- `percentage <= 0.0 || percentage > 100.0`, which is false of a NaN. -/
def outOfRange : CFloat → Bool
  | .nan => false
  | .inf _ => true
  | .num q => decide (q ≤ 0 ∨ q > 100)

/-- `percentage / 100.0`, a `double` that is stored as a `float`. -/
def fraction : CFloat → CFloat
  | .num q => .num (Binary.binary32.round (Binary.binary64.round (q / 100)))
  | x => x

end CFloat

/-- `strtof` gives the number and the text behind it. -/
def setStatsdsampling (strtof : CString → CFloat × CString) (cmd : ConfCmd) :
    Except ConfError CFloat :=
  match checkArgs cmd 1, checkConf cmd, cmd.argv[1]? with
  | true, true, some arg =>
      -- `ptr && *ptr`
      if (strtof arg).2.chars ≠ [] then
        .error (.message ((CString.lit "badly formatted percentage value: ").pstrcat arg))
      else if (strtof arg).1.outOfRange then
        .error (.message (CString.lit "percentage must be between 0 and 100"))
      -- a percentage is stored as a fraction
      else .ok (strtof arg).1.fraction
  | true, false, _ => .error .wrongContext
  | _, _, _ => .error .missingArgs

/-- Every percentage above zero is accepted, and so is a NaN. -/
theorem setStatsdsampling_iff {strtof : CString → CFloat × CString} {cmd : ConfCmd}
    {rate : CFloat} :
    setStatsdsampling strtof cmd = .ok rate ↔
      checkConf cmd = true ∧ ∃ arg, cmd.argv[1]? = some arg ∧ (strtof arg).2.chars = [] ∧
        (strtof arg).1.outOfRange = false ∧ rate = (strtof arg).1.fraction := by
  cases harg : cmd.argv[1]? with
  | none =>
      cases hargs : checkArgs cmd 1 <;> cases hconf : checkConf cmd <;>
        simp [setStatsdsampling, harg, hargs, hconf]
  | some arg =>
      have hargs : checkArgs cmd 1 = true := by
        rcases List.getElem?_eq_some_iff.1 harg with ⟨hlt, _⟩
        exact decide_eq_true hlt
      cases hconf : checkConf cmd with
      | false => simp [setStatsdsampling, harg, hargs, hconf]
      | true =>
          by_cases hrest : (strtof arg).2.chars = []
          · have hsymm : (strtof arg).1.fraction = rate ↔ rate = (strtof arg).1.fraction := eq_comm
            cases hrange : (strtof arg).1.outOfRange <;>
              simp [setStatsdsampling, harg, hargs, hconf, hrest, hrange, hsymm]
          · simp [setStatsdsampling, harg, hargs, hconf, hrest]

/-- What is stored is a NaN or a fraction. -/
theorem CFloat.fraction_cases {x : CFloat} (h : x.outOfRange = false) :
    x.fraction = .nan ∨ ∃ rate : ℚ, x.fraction = .num rate ∧ 0 ≤ rate ∧ rate ≤ 1 := by
  cases x with
  | nan => exact Or.inl rfl
  | inf negative => exact absurd h Bool.false_ne_true.symm
  | num q =>
      have hrange : ¬ (q ≤ 0 ∨ q > 100) := of_decide_eq_false h
      have hnonneg : 0 ≤ q / 100 := by
        rw [not_or] at hrange
        linarith [hrange.1]
      have hle : q / 100 ≤ 1 := by
        rw [not_or] at hrange
        linarith [hrange.2]
      have hdouble : Binary.binary64.round (q / 100) ≤ 1 :=
        Binary.Format.round_le_one (by decide) hle
      exact Or.inr ⟨_, rfl, Binary.Format.round_nonneg (Binary.Format.round_nonneg hnonneg),
        Binary.Format.round_le_one (by decide) hdouble⟩

-- a percentage above zero may be stored as zero
example : (CFloat.num (1 / 10 ^ 44)).fraction = .num 0 := by decide +kernel

/-! ## StatsdServer -/

def statsdDefaultPort : Int32 := 8125

def isSpace (c : Char) : Bool :=
  c = ' ' || ('\t' ≤ c && c ≤ '\r')

/-- `strtol(s, NULL, 10)`, which saturates. -/
def strtol (s : List Char) : Int :=
  let digits := fun ds : List Char => (Nat.ofDigitChars 10 (ds.takeWhile Char.isDigit) 0 : Int)
  match s.dropWhile isSpace with
  | '-' :: ds => max (-2 ^ 63) (-digits ds)
  | '+' :: ds => min (2 ^ 63 - 1) (digits ds)
  | ds => min (2 ^ 63 - 1) (digits ds)

/-- `atoi`, a `strtol` cut to an `int`. -/
def atoi (s : CString) : Int32 :=
  Int32.ofInt (strtol s.chars)

namespace CString

/-- `s + n`, for `n` within the text. -/
def suffixFrom (s : CString) (n : Nat) : CString :=
  { chars := s.chars.drop n
    noNul := fun h => s.noNul (List.mem_of_mem_drop h) }

/-- The last position of `c`. -/
def strrchr (s : CString) (c : Char) : Option Nat :=
  (s.chars.reverse.findIdx? (· = c)).map fun i => s.strlen - 1 - i

/-- `strncasecmp(s, word, strlen(word)) == 0`, for a lower-case `word`. -/
def startsWith (s : CString) (word : String) : Bool :=
  decide ((s.chars.take word.length).map Char.toLower = word.toList)

end CString

/-- The scheme, if there is one, and the rest. -/
def stripScheme (server : CString) : Bool × CString :=
  if server.startsWith "tcp://" then (true, server.suffixFrom 6)
  else if server.startsWith "udp://" then (false, server.suffixFrom 6)
  else (false, server)

/-- The host and the port. -/
def parseServer (server : CString) : CString × Int32 :=
  match server.strrchr ':' with
  | none => (server, statsdDefaultPort)
  | some ptr =>
      if server.chars.head? = some '[' then
        if server.chars[ptr - 1]? = some ']' then
          -- an IPv6 address with an explicit port number
          ((server.suffixFrom 1).pstrndup (ptr - 1 - 1), atoi (server.suffixFrom (ptr + 1)))
        else if server.chars[server.strlen - 1]? = some ']' then
          -- an IPv6 address without a port
          ((server.suffixFrom 1).pstrndup (server.strlen - 2), statsdDefaultPort)
        -- unbalanced brackets are left to the resolver
        else (server, statsdDefaultPort)
      else (server.pstrndup ptr, atoi (server.suffixFrom (ptr + 1)))

/-- The `config_rec` of a `StatsdServer` line. -/
structure ServerRec where
  host : CString
  port : Int32
  useTcp : Bool
  prefixLabel : Option CString
  suffixLabel : Option CString
  deriving DecidableEq, Repr

/-- Automatically append a '.', to make construction of the metric name easier. -/
def prefixOf (arg : Option CString) : Option CString :=
  match arg with
  | some text => if text.chars ≠ [] then some (text.pstrcat (CString.lit ".")) else none
  | none => none

/-- Automatically prepend a '.', to make construction of the metric name easier. -/
def suffixOf (arg : Option CString) : Option CString :=
  match arg with
  | some text => if text.chars ≠ [] then some ((CString.lit ".").pstrcat text) else none
  | none => none

def setStatsdserver (cmd : ConfCmd) : Except ConfError ServerRec :=
  match cmd.argv with
  | _ :: arg :: labels =>
      if labels.length > 2 then .error (.message (CString.lit "wrong number of parameters"))
      else if checkConf cmd then
        .ok
          { host := (parseServer (stripScheme arg).2).1
            port := (parseServer (stripScheme arg).2).2
            useTcp := (stripScheme arg).1
            prefixLabel := prefixOf labels[0]?
            suffixLabel := suffixOf labels[1]? }
      else .error .wrongContext
  | _ => .error (.message (CString.lit "wrong number of parameters"))

/-- A line with at most two labels, in a place where it may stand, is accepted. -/
theorem setStatsdserver_iff {cmd : ConfCmd} {arg : CString} (harg : cmd.argv[1]? = some arg)
    (c : ServerRec) :
    setStatsdserver cmd = .ok c ↔ (cmd.argv.length ≤ 4 ∧ checkConf cmd = true) ∧
      { host := (parseServer (stripScheme arg).2).1
        port := (parseServer (stripScheme arg).2).2
        useTcp := (stripScheme arg).1
        prefixLabel := prefixOf cmd.argv[2]?
        suffixLabel := suffixOf cmd.argv[3]? } = c := by
  rcases hargv : cmd.argv with _ | ⟨name, _ | ⟨arg', labels⟩⟩
  · simp [hargv] at harg
  · simp [hargv] at harg
  · have hsame : arg' = arg := by simpa [hargv] using harg
    by_cases hlabels : labels.length > 2
    · have hlong : ¬ labels.length + 1 < 4 := by omega
      simp [setStatsdserver, hargv, hlabels, hlong]
    · have hshort : labels.length + 1 < 4 := by omega
      cases hconf : checkConf cmd with
      | false => simp [setStatsdserver, hargv, hlabels, hconf]
      | true => simp [setStatsdserver, hargv, hlabels, hshort, hconf, hsame]

/-- An accepted line has at most two labels, and the record's labels are made from them. -/
theorem setStatsdserver_ok {cmd : ConfCmd} {c : ServerRec} (h : setStatsdserver cmd = .ok c) :
    c.prefixLabel = prefixOf cmd.argv[2]? ∧ c.suffixLabel = suffixOf cmd.argv[3]? ∧
      cmd.argv.length ≤ 4 := by
  cases harg : cmd.argv[1]? with
  | none =>
      have hshort : cmd.argv.length ≤ 1 := List.getElem?_eq_none_iff.1 harg
      rcases hargv : cmd.argv with _ | ⟨name, _ | ⟨arg, labels⟩⟩
      · simp [setStatsdserver, hargv] at h
      · simp [setStatsdserver, hargv] at h
      · simp [hargv] at hshort
  | some arg =>
      rcases (setStatsdserver_iff harg c).1 h with ⟨⟨hlength, _⟩, rfl⟩
      exact ⟨rfl, rfl, hlength⟩

end ModStatsd
