import Mathlib
import ModStatsd.Config.Directives
import ModStatsd.Lib.Decimal

/-!
# Address — what does `StatsdServer` make of an address?

`set_statsdserver` looks for the last colon and then tells a port from the end of an IPv6 address by
the brackets around it.  Of an address that is written as the documentation says it records the host
and the port (`setStatsdserver_render`).  It looks at nothing else: whatever is not written that way
is recorded, too (`recorded_well_iff`).
-/

namespace ModStatsd

open Lib

/-! ## Characters and digits -/

/-- Only an upper-case letter is changed, and into a lower-case one. -/
theorem eq_of_toLower_eq {c d : Char} (hd : d.isLower = false) (h : c.toLower = d) : c = d := by
  by_cases hupper : c.isUpper = true
  · have hlower : c.toLower.isLower = true := by
      rw [Char.isLower_toLower_eq_isAlpha, Char.isAlpha, hupper, Bool.true_or]
    rw [h, hd] at hlower
    exact absurd hlower Bool.false_ne_true
  · rw [← h, Char.toLower_eq_of_not_isUpper hupper]

theorem isSpace_of_isDigit {c : Char} (h : c.isDigit = true) : isSpace c = false := by
  cases hs : isSpace c with
  | false => rfl
  | true =>
      simp only [isSpace, Char.isDigit, Char.le_def, UInt32.le_iff_toNat_le, Bool.or_eq_true,
        Bool.and_eq_true, decide_eq_true_eq] at hs h
      rcases hs with rfl | ⟨_, hs⟩
      · exact absurd h (by decide)
      · have hlow : 48 ≤ c.val.toNat := h.1
        have hhigh : c.val.toNat ≤ 13 := hs
        omega

/-- `strtol` of digits is the number they denote, unless that is too large for a `long`. -/
theorem strtol_digits {ds : List Char} (h : ∀ c ∈ ds, c.isDigit = true)
    (hmax : Nat.ofDigitChars 10 ds 0 < 2 ^ 63) : strtol ds = Nat.ofDigitChars 10 ds 0 := by
  have htake : ds.takeWhile Char.isDigit = ds := List.takeWhile_eq_self_iff.2 h
  cases ds with
  | nil => rfl
  | cons c ds =>
      have hc : c.isDigit = true := h c (by simp)
      have hminus : c ≠ '-' := by
        rintro rfl
        exact absurd hc (by decide)
      have hplus : c ≠ '+' := by
        rintro rfl
        exact absurd hc (by decide)
      have hdrop : (c :: ds).dropWhile isSpace = c :: ds := by simp [isSpace_of_isDigit hc]
      -- neither a space nor a sign comes first
      have hvalue : strtol (c :: ds) =
          min (2 ^ 63 - 1) (Nat.ofDigitChars 10 ((c :: ds).takeWhile Char.isDigit) 0 : Int) := by
        simp [strtol, hdrop, hminus, hplus]
      rw [hvalue, htake, min_eq_right (by omega)]

theorem toInt_atoi {s : CString} {n : Nat} (h : Decimal.parseNat s.chars = some n)
    (hmax : n < 2 ^ 31) : (atoi s).toInt = n := by
  rcases Decimal.parseNat_eq_some.1 h with ⟨⟨_, hdigits⟩, hvalue⟩
  rw [atoi, strtol_digits hdigits (by omega), hvalue, Int32.toInt_ofInt_of_le (by omega) (by omega)]

/-! ## The last colon -/

theorem strrchr_none {s : CString} {c : Char} (h : c ∉ s.chars) : s.strrchr c = none := by
  simp only [CString.strrchr, Option.map_eq_none_iff, List.findIdx?_eq_none_iff, List.mem_reverse,
    decide_eq_false_iff_not]
  rintro d hd rfl
  exact h hd

theorem strrchr_last {s : CString} {c : Char} {xs ys : List Char} (hs : s.chars = xs ++ c :: ys)
    (h : c ∉ ys) : s.strrchr c = some xs.length := by
  have hys : ys.reverse.findIdx? (· = c) = none := by
    simp only [List.findIdx?_eq_none_iff, List.mem_reverse, decide_eq_false_iff_not]
    rintro d hd rfl
    exact h hd
  simp [CString.strrchr, hs, hys, List.findIdx?_append, List.findIdx?_cons, CString.strlen]

section ParseServer

variable {server host digits : CString}

theorem parseServer_of_no_colon (h : ':' ∉ server.chars) :
    parseServer server = (server, statsdDefaultPort) := by
  simp [parseServer, strrchr_none h]

theorem parseServer_host_port (hs : server.chars = host.chars ++ ':' :: digits.chars)
    (hbracket : server.chars.head? ≠ some '[') (hdigits : ':' ∉ digits.chars) :
    parseServer server = (host, atoi digits) := by
  have hhost : server.pstrndup host.chars.length = host := by
    apply CString.ext
    simp [hs]
  have hport : server.suffixFrom (host.chars.length + 1) = digits := by
    apply CString.ext
    simp [CString.suffixFrom, hs]
  simp only [parseServer, strrchr_last hs hdigits, hbracket, if_false, hhost, hport]

theorem parseServer_bracketed_port
    (hs : server.chars = '[' :: (host.chars ++ ']' :: ':' :: digits.chars))
    (hdigits : ':' ∉ digits.chars) : parseServer server = (host, atoi digits) := by
  have hsplit : server.chars = ('[' :: (host.chars ++ [']'])) ++ ':' :: digits.chars := by
    simp [hs]
  have hptr : server.strrchr ':' = some (host.chars.length + 2) := by
    rw [strrchr_last hsplit hdigits]
    simp
  have hclose : server.chars[host.chars.length + 1]? = some ']' := by simp [hs]
  have hhost : (server.suffixFrom 1).pstrndup host.chars.length = host := by
    apply CString.ext
    simp [CString.suffixFrom, hs]
  have hport : server.suffixFrom (host.chars.length + 3) = digits := by
    apply CString.ext
    simp [CString.suffixFrom, hs]
  have hopen : server.chars.head? = some '[' := by simp [hs]
  simp only [parseServer, hptr, hopen, if_true, Nat.add_succ_sub_one, hclose, hport]
  simp [hhost]

theorem parseServer_bracketed (hs : server.chars = '[' :: (host.chars ++ [']']))
    (hcolon : ':' ∈ host.chars) (hclose : ']' ∉ host.chars) :
    parseServer server = (host, statsdDefaultPort) := by
  rcases Lists.exists_last hcolon with ⟨before, after, hhost, hlast⟩
  have hsplit : server.chars = ('[' :: before) ++ ':' :: (after ++ [']']) := by simp [hs, hhost]
  have hptr : server.strrchr ':' = some (before.length + 1) := by
    rw [strrchr_last hsplit (by simp [hlast])]
    simp
  -- before the colon there is the opening bracket, or a part of the address
  have hbefore : server.chars[before.length]? ≠ some ']' := by
    intro h
    have hmem : ']' ∈ '[' :: before := by
      rw [hsplit, List.getElem?_append_left (by simp)] at h
      exact List.mem_of_getElem? h
    rcases List.mem_cons.1 hmem with hbad | hmem
    · exact absurd hbad (by decide)
    · exact hclose (by simp [hhost, hmem])
  have hend : server.chars[server.strlen - 1]? = some ']' := by simp [CString.strlen, hs]
  have hinner : (server.suffixFrom 1).pstrndup (server.strlen - 2) = host := by
    apply CString.ext
    simp [CString.suffixFrom, CString.strlen, hs]
  have hopen : server.chars.head? = some '[' := by simp [hs]
  simp only [parseServer, hptr, hopen, if_true, Nat.add_sub_cancel, hbefore, if_false, hend, hinner]

end ParseServer

/-! ## The scheme -/

/-- How the scheme is written, if there is one. -/
inductive Scheme
  | absent
  | tcp (text : CString) (spelled : text.chars.map Char.toLower = "tcp://".toList)
  | udp (text : CString) (spelled : text.chars.map Char.toLower = "udp://".toList)

namespace Scheme

def text : Scheme → CString
  | .absent => CString.empty
  | .tcp text _ => text
  | .udp text _ => text

def isTcp : Scheme → Bool
  | .tcp _ _ => true
  | _ => false

end Scheme

/-- A scheme ends with a colon and slashes, and has neither a colon nor a bracket before. -/
theorem startsWith_cases {s : CString} {word : String} (hword : word = "tcp://" ∨ word = "udp://")
    (h : s.startsWith word = true) :
    ∃ before after, s.chars = before ++ ':' :: '/' :: after ∧ ':' ∉ before ∧ '[' ∉ before ∧
      before ≠ [] := by
  have hlower : (s.chars.take word.length).map Char.toLower = word.toList := by
    simpa [CString.startsWith] using h
  -- three letters and `://`
  have hparts : ∃ letters, word.toList = letters ++ [':', '/', '/'] ∧ ':' ∉ letters ∧
      '[' ∉ letters ∧ letters ≠ [] := by
    rcases hword with rfl | rfl
    · exact ⟨['t', 'c', 'p'], by decide, by decide, by decide, by decide⟩
    · exact ⟨['u', 'd', 'p'], by decide, by decide, by decide, by decide⟩
  rcases hparts with ⟨letters, hparts, hcolon, hbracket, hne⟩
  rw [hparts] at hlower
  rcases List.map_eq_append_iff.1 hlower with ⟨before, slashes, htake, hbefore, hslashes⟩
  have hexact : ∃ c, slashes = [':', '/', c] := by
    rcases slashes with _ | ⟨a, _ | ⟨b, _ | ⟨c, _ | ⟨d, rest⟩⟩⟩⟩ <;> simp at hslashes
    exact ⟨c, by rw [eq_of_toLower_eq (by decide) hslashes.1,
      eq_of_toLower_eq (by decide) hslashes.2.1]⟩
  rcases hexact with ⟨c, rfl⟩
  refine ⟨before, c :: s.chars.drop word.length, ?_, ?_, ?_, ?_⟩
  · calc
      s.chars = s.chars.take word.length ++ s.chars.drop word.length :=
        (List.take_append_drop _ _).symm
      _ = before ++ ':' :: '/' :: (c :: s.chars.drop word.length) := by
        rw [htake, List.append_assoc]
        rfl
  · intro hmem
    exact hcolon (hbefore ▸ List.mem_map.2 ⟨':', hmem, by decide⟩)
  · intro hmem
    exact hbracket (hbefore ▸ List.mem_map.2 ⟨'[', hmem, by decide⟩)
  · rintro rfl
    exact hne hbefore.symm

/-- No scheme is seen where there is a host, and behind it nothing or a colon and no slash. -/
theorem startsWith_false {s : CString} {host port : List Char} (hs : s.chars = host ++ port)
    (hhost : ':' ∉ host ∨ host.head? = some '[')
    (hport : port = [] ∨ ∃ ds, port = ':' :: ds ∧ ds.head? ≠ some '/') {word : String}
    (hword : word = "tcp://" ∨ word = "udp://") : s.startsWith word = false := by
  rw [← Bool.not_eq_true]
  intro h
  rcases startsWith_cases hword h with ⟨before, after, hbefore, hnoColon, hnoBracket, hne⟩
  rw [hs] at hbefore
  rcases hhost with hhost | hopen
  · rcases hport with rfl | ⟨ds, rfl, hds⟩
    · have hall : host = before ++ ':' :: '/' :: after := by simpa using hbefore
      exact hhost (by simp [hall])
    · -- both show the first colon
      rcases List.append_eq_append_iff.1 hbefore with ⟨c, hc, heq⟩ | ⟨c, hc, heq⟩
      · rcases c with _ | ⟨a, c⟩
        · exact hds (by rw [(List.cons.inj heq).2]; rfl)
        · have ha : ':' = a := (List.cons.inj heq).1
          exact hnoColon (by simp [hc, ← ha])
      · rcases c with _ | ⟨a, c⟩
        · exact hds (by rw [← (List.cons.inj heq).2]; rfl)
        · have ha : ':' = a := (List.cons.inj heq).1
          exact hhost (by simp [hc, ← ha])
  · rcases List.exists_cons_of_ne_nil hne with ⟨c, letters, rfl⟩
    have hhead : (host ++ port).head? = some c := by rw [hbefore]; rfl
    have hc : c = '[' := by
      rw [List.head?_append, hopen] at hhead
      simpa using hhead.symm
    exact hnoBracket (by simp [hc])

theorem stripScheme_eq {server rest : CString} (scheme : Scheme)
    (hs : server.chars = scheme.text.chars ++ rest.chars)
    (hrest : ∀ word, word = "tcp://" ∨ word = "udp://" → rest.startsWith word = false) :
    stripScheme server = (scheme.isTcp, rest) := by
  have hspelled : ∀ {text : CString} {word : String} (word' : String),
      server.chars = text.chars ++ rest.chars →
      text.chars.map Char.toLower = word.toList → word.length = word'.length →
      server.startsWith word' = decide (word = word') ∧ server.suffixFrom word.length = rest := by
    intro text word word' htext hlower hlength
    have hlen : text.chars.length = word.length := by
      have hcongr := congrArg List.length hlower
      rwa [List.length_map, String.length_toList] at hcongr
    refine ⟨?_, ?_⟩
    · simp [CString.startsWith, htext, ← hlength, ← hlen, hlower, String.toList_inj]
    · apply CString.ext
      simp [CString.suffixFrom, htext, ← hlen]
  cases scheme with
  | absent =>
      have hsame : server = rest := CString.ext (by simpa [Scheme.text] using hs)
      subst hsame
      simp [stripScheme, hrest "tcp://" (Or.inl rfl), hrest "udp://" (Or.inr rfl), Scheme.isTcp]
  | tcp text spelled =>
      rcases hspelled "tcp://" hs spelled rfl with ⟨htcp, hsuffix⟩
      have hsix : "tcp://".length = 6 := by decide
      rw [hsix] at hsuffix
      simp [stripScheme, htcp, hsuffix, Scheme.isTcp]
  | udp text spelled =>
      rcases hspelled "tcp://" hs spelled rfl with ⟨htcp, hsuffix⟩
      rcases hspelled "udp://" hs spelled rfl with ⟨hudp, _⟩
      have hsix : "udp://".length = 6 := by decide
      rw [hsix] at hsuffix
      simp [stripScheme, htcp, hudp, hsuffix, Scheme.isTcp]

/-! ## Rendering an address -/

/-- A name or an IPv4 address, or an IPv6 address, which is written in square brackets. -/
inductive Host
  | plain (text : CString) (nonempty : text.chars ≠ []) (noColon : ':' ∉ text.chars)
      (unbracketed : text.chars.head? ≠ some '[')
  | ipv6 (text : CString) (colon : ':' ∈ text.chars) (noOpen : '[' ∉ text.chars)
      (noClose : ']' ∉ text.chars)

namespace Host

def text : Host → CString
  | .plain text _ _ _ => text
  | .ipv6 text _ _ _ => text

def render : Host → CString
  | .plain text _ _ _ => text
  | .ipv6 text _ _ _ => ((CString.lit "[").pstrcat text).pstrcat (CString.lit "]")

end Host

/-- A port number, or none. -/
abbrev Port := Option { n : Nat // 1 ≤ n ∧ n ≤ 65535 }

namespace Port

/-- `%d` -/
def digits (n : Nat) : CString :=
  { chars := Decimal.nat n
    noNul := Decimal.not_mem_nat (by decide) n }

def render : Port → CString
  | some n => (CString.lit ":").pstrcat (digits n)
  | none => CString.empty

def number : Port → Int
  | some n => n
  | none => statsdDefaultPort.toInt

end Port

structure Address where
  scheme : Scheme
  host : Host
  port : Port

/-- `[scheme://]host[:port]` -/
def Address.render (a : Address) : CString :=
  a.scheme.text.pstrcat (a.host.render.pstrcat (Port.render a.port))

theorem toInt_atoi_digits {n : Nat} (h : n ≤ 65535) : (atoi (Port.digits n)).toInt = n :=
  toInt_atoi (Decimal.parseNat_nat n) (by omega)

theorem parseServer_render {server : CString} (host : Host) (port : Port)
    (hs : server.chars = host.render.chars ++ (Port.render port).chars) :
    (parseServer server).1 = host.text ∧ (parseServer server).2.toInt = Port.number port := by
  have hdigits : ∀ n, ':' ∉ (Port.digits n).chars := Decimal.not_mem_nat (by decide)
  cases host with
  | plain text nonempty noColon unbracketed =>
      cases port with
      | none =>
          have hsame : server = text := CString.ext (by simpa [Port.render, Host.render] using hs)
          rw [hsame, parseServer_of_no_colon noColon]
          exact ⟨rfl, rfl⟩
      | some n =>
          have hport : server.chars = text.chars ++ ':' :: (Port.digits n).chars := hs
          have hhead : server.chars.head? ≠ some '[' := by
            rw [hport, List.head?_append_of_ne_nil _ nonempty]
            exact unbracketed
          rw [parseServer_host_port hport hhead (hdigits n)]
          exact ⟨rfl, toInt_atoi_digits n.2.2⟩
  | ipv6 text colon noOpen noClose =>
      cases port with
      | none =>
          have hbare : server.chars = '[' :: (text.chars ++ [']']) := by
            simpa [Port.render, Host.render, CString.lit] using hs
          rw [parseServer_bracketed hbare colon noClose]
          exact ⟨rfl, rfl⟩
      | some n =>
          have hport : server.chars = '[' :: (text.chars ++ ']' :: ':' :: (Port.digits n).chars) := by
            simpa [Port.render, Host.render, CString.lit] using hs
          rw [parseServer_bracketed_port hport (hdigits n)]
          exact ⟨rfl, toInt_atoi_digits n.2.2⟩

/-- Neither a host nor a port looks like a scheme. -/
theorem startsWith_render (host : Host) (port : Port) {word : String}
    (hword : word = "tcp://" ∨ word = "udp://") :
    (host.render.pstrcat (Port.render port)).startsWith word = false := by
  refine startsWith_false (CString.chars_pstrcat _ _) ?_ ?_ hword
  · cases host with
    | plain text nonempty noColon unbracketed => exact Or.inl noColon
    | ipv6 text colon noOpen noClose => exact Or.inr rfl
  · cases port with
    | none => exact Or.inl rfl
    | some n =>
        refine Or.inr ⟨Decimal.nat n, rfl, ?_⟩
        intro hslash
        exact Decimal.not_mem_nat (by decide) n (List.mem_of_head? hslash)

/-- The directive gives back the address it was written for. -/
theorem setStatsdserver_render (a : Address) {cmd : ConfCmd} (harg : cmd.argv[1]? = some a.render)
    (hlength : cmd.argv.length ≤ 4) (hconf : checkConf cmd = true) :
    ∃ c, setStatsdserver cmd = .ok c ∧ c.host = a.host.text ∧
      c.port.toInt = Port.number a.port ∧ c.useTcp = a.scheme.isTcp := by
  have hstrip : stripScheme a.render =
      (a.scheme.isTcp, a.host.render.pstrcat (Port.render a.port)) :=
    stripScheme_eq a.scheme (CString.chars_pstrcat _ _)
      (fun _ hword => startsWith_render a.host a.port hword)
  rcases parseServer_render a.host a.port (CString.chars_pstrcat _ _) with ⟨hhost, hport⟩
  refine ⟨_, (setStatsdserver_iff harg _).2 ⟨⟨hlength, hconf⟩, rfl⟩, ?_, ?_, ?_⟩
  · simp only [hstrip, hhost]
  · simp only [hstrip, hport]
  · simp only [hstrip]

/-- An address whose last group looks like a port, over TCP. -/
theorem setStatsdserver_render_ipv6 :
    ∃ c, setStatsdserver
        { argv := [CString.lit "StatsdServer", CString.lit "TCP://[::8126]:9125", CString.lit "prod"]
          context := .virtual } = .ok c ∧
      c.host = CString.lit "::8126" ∧ c.port.toInt = 9125 ∧ c.useTcp = true :=
  setStatsdserver_render
    { scheme := .tcp (CString.lit "TCP://") (by decide)
      host := .ipv6 (CString.lit "::8126") (by decide) (by decide) (by decide)
      port := some ⟨9125, by decide⟩ }
    (by decide) (by decide) (by decide)

/-! ## Whatever else is written -/

/-- A host: without colons and brackets, or in brackets. -/
def IsHost (host : List Char) : Prop :=
  (host ≠ [] ∧ ':' ∉ host ∧ '[' ∉ host ∧ ']' ∉ host) ∨
    ∃ addr, host = '[' :: (addr ++ [']']) ∧ addr ≠ [] ∧ '[' ∉ addr ∧ ']' ∉ addr

/-- Nothing, or a colon and the digits of a port number. -/
def IsPort (port : List Char) : Prop :=
  port = [] ∨ ∃ digits n, port = ':' :: digits ∧ Decimal.parseNat digits = some n ∧ 1 ≤ n ∧ n ≤ 65535

/-- `[tcp://|udp://]host[:port]` -/
def WellFormed (arg : CString) : Prop :=
  ∃ (scheme : Scheme) (host port : List Char),
    arg.chars = scheme.text.chars ++ (host ++ port) ∧ IsHost host ∧ IsPort port

/-- The argument is well formed, the port is in range, and the host is that of the argument, with or
without its brackets. -/
def RecordsWell (arg : CString) (c : ServerRec) : Prop :=
  ∃ (scheme : Scheme) (host port : List Char),
    arg.chars = scheme.text.chars ++ (host ++ port) ∧ IsHost host ∧ IsPort port ∧
      (c.host.chars = host ∨ host = '[' :: (c.host.chars ++ [']'])) ∧
      1 ≤ c.port.toInt ∧ c.port.toInt ≤ 65535

/-- The line is refused, whatever the address. -/
def Refused (cmd : ConfCmd) : Prop :=
  4 < cmd.argv.length ∨ checkConf cmd = false

namespace CString

/-- A text that is part of another. -/
def part (s : CString) (cs : List Char) (h : ∀ c ∈ cs, c ∈ s.chars) : CString :=
  { chars := cs
    noNul := fun hnul => s.noNul (h _ hnul) }

end CString

theorem parseServer_wellFormed {server : CString} {host port : List Char}
    (hs : server.chars = host ++ port) (hhost : IsHost host) (hport : IsPort port) :
    ((parseServer server).1.chars = host ∨ host = '[' :: ((parseServer server).1.chars ++ [']'])) ∧
      1 ≤ (parseServer server).2.toInt ∧ (parseServer server).2.toInt ≤ 65535 := by
  have hdefault : 1 ≤ statsdDefaultPort.toInt ∧ statsdDefaultPort.toInt ≤ 65535 := by decide
  rcases hport with rfl | ⟨digits, n, rfl, hdigits, hlow, hhigh⟩
  · rw [List.append_nil] at hs
    by_cases hcolon : ':' ∈ server.chars
    · rcases hhost with ⟨_, hnot, _⟩ | ⟨addr, rfl, _, _, hclose⟩
      · exact absurd (hs ▸ hcolon) hnot
      · let text := server.part addr (by simp +contextual [hs])
        have htext : ':' ∈ text.chars := by simpa [hs, text, CString.part] using hcolon
        have htext' : server.chars = '[' :: (text.chars ++ [']']) := hs
        rw [parseServer_bracketed htext' htext hclose]
        exact ⟨Or.inr rfl, hdefault⟩
    · rw [parseServer_of_no_colon hcolon]
      exact ⟨Or.inl hs, hdefault⟩
  · let text := server.part digits (by simp +contextual [hs])
    have hport : (atoi text).toInt = n := toInt_atoi hdigits (by omega)
    have hnoColon : ':' ∉ digits := fun hmem =>
      absurd ((Decimal.parseNat_eq_some.1 hdigits).1.2 _ hmem) (by decide)
    have hrange : 1 ≤ (atoi text).toInt ∧ (atoi text).toInt ≤ 65535 := by omega
    rcases hhost with ⟨hne, _, hopen, _⟩ | ⟨addr, rfl, _, _, _⟩
    · let name := server.part host (by simp +contextual [hs])
      have hhead : server.chars.head? ≠ some '[' := by
        rw [hs, List.head?_append_of_ne_nil _ hne]
        exact fun hbad => hopen (List.mem_of_head? hbad)
      have hsplit : server.chars = name.chars ++ ':' :: text.chars := hs
      rw [parseServer_host_port hsplit hhead hnoColon]
      exact ⟨Or.inl rfl, hrange⟩
    · let inner := server.part addr (by simp +contextual [hs])
      have hsplit : server.chars = '[' :: (inner.chars ++ ']' :: ':' :: text.chars) := by
        simp [hs, inner, text, CString.part]
      rw [parseServer_bracketed_port hsplit hnoColon]
      exact ⟨Or.inr rfl, hrange⟩

theorem startsWith_wellFormed {s : CString} {host port : List Char} (hs : s.chars = host ++ port)
    (hhost : IsHost host) (hport : IsPort port) {word : String}
    (hword : word = "tcp://" ∨ word = "udp://") : s.startsWith word = false := by
  refine startsWith_false hs ?_ ?_ hword
  · rcases hhost with ⟨_, hcolon, _⟩ | ⟨addr, rfl, _⟩
    · exact Or.inl hcolon
    · exact Or.inr rfl
  · rcases hport with rfl | ⟨digits, n, rfl, hdigits, _⟩
    · exact Or.inl rfl
    · refine Or.inr ⟨digits, rfl, fun hslash => ?_⟩
      exact absurd ((Decimal.parseNat_eq_some.1 hdigits).1.2 _ (List.mem_of_head? hslash)) (by decide)

/-- What an accepted line records is well formed just if the argument is: no address is refused. -/
theorem recorded_well_iff {cmd : ConfCmd} {arg : CString} (harg : cmd.argv[1]? = some arg) :
    (∀ c, setStatsdserver cmd = .ok c → RecordsWell arg c) ↔ WellFormed arg ∨ Refused cmd := by
  constructor
  · intro hall
    by_cases hrefused : Refused cmd
    · exact Or.inr hrefused
    · -- any address will do
      have hlength : cmd.argv.length ≤ 4 := Nat.le_of_not_lt fun h => hrefused (Or.inl h)
      have hconf : checkConf cmd = true := by
        rw [← Bool.not_eq_false]
        exact fun h => hrefused (Or.inr h)
      rcases hall _ ((setStatsdserver_iff harg _).2 ⟨⟨hlength, hconf⟩, rfl⟩) with
        ⟨scheme, host, port, htext, hhost, hport, _⟩
      exact Or.inl ⟨scheme, host, port, htext, hhost, hport⟩
  · rintro hcond c hc
    rcases (setStatsdserver_iff harg c).1 hc with ⟨⟨hlength, hconf⟩, rfl⟩
    have hwell : WellFormed arg := by
      refine hcond.resolve_right ?_
      rintro (hlong | hbad)
      · exact absurd hlength (not_le.2 hlong)
      · simp [hconf] at hbad
    rcases hwell with ⟨scheme, host, port, htext, hhost, hport⟩
    let rest := arg.part (host ++ port) (by simp +contextual [htext])
    have hstrip : stripScheme arg = (scheme.isTcp, rest) :=
      stripScheme_eq scheme htext fun _ hword => startsWith_wellFormed rfl hhost hport hword
    have hrest : rest.chars = host ++ port := rfl
    rcases parseServer_wellFormed hrest hhost hport with ⟨hrecorded, hrange⟩
    refine ⟨scheme, host, port, htext, hhost, hport, ?_⟩
    rw [hstrip]
    exact ⟨hrecorded, hrange⟩

/-- A host in brackets that is not an IPv6 address. -/
theorem recorded_well_bracketed :
    ∃ c, setStatsdserver
        { argv := [CString.lit "StatsdServer", CString.lit "udp://[1.2.3.4]:08125"]
          context := .root } = .ok c ∧
      RecordsWell (CString.lit "udp://[1.2.3.4]:08125") c := by
  let cmd : ConfCmd :=
    { argv := [CString.lit "StatsdServer", CString.lit "udp://[1.2.3.4]:08125"]
      context := .root }
  have harg : cmd.argv[1]? = some (CString.lit "udp://[1.2.3.4]:08125") := rfl
  have hwell : WellFormed (CString.lit "udp://[1.2.3.4]:08125") :=
    ⟨.udp (CString.lit "udp://") (by decide), "[1.2.3.4]".toList, ":08125".toList, by decide,
      Or.inr ⟨"1.2.3.4".toList, by decide⟩, Or.inr ⟨"08125".toList, 8125, by decide⟩⟩
  exact ⟨_, rfl, (recorded_well_iff harg).2 (Or.inl hwell) _ rfl⟩

/-- A port that does not fit 16 bits, one that is no number, and a bracket that is not closed. -/
theorem malformed_addresses_accepted :
    [CString.lit "1.2.3.4:99999", CString.lit "h:abc", CString.lit "[::1:8126"].map (fun text =>
      (setStatsdserver { argv := [CString.lit "StatsdServer", text], context := .root }).toOption.map
        fun c => (c.host, c.port.toInt)) =
      [some (CString.lit "1.2.3.4", 99999), some (CString.lit "h", 0),
        some (CString.lit "[::1:8126", 8125)] := by
  decide

end ModStatsd
