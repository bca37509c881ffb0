import HyperCom.Lib.QuotedWords
import HyperCom.Server.AdminService
import Mathlib.Data.List.TakeWhile

/-!
# The administration tool

`hypercom_adminctl` puts its arguments into one line, and the server takes the
line apart. The two agree as long as no argument holds what the line itself is
made of: a newline, a quote where words begin or inside of quotes, a carriage
return outside of them. Nothing escapes these, so an argument with one of them is
read as other words than the typed ones, if it is read at all.

The condition is decidable from the arguments, and it is exact: outside of it there is a
line that means something else than was typed, or nothing.
-/

namespace HyperCom

open Words AdminDispatcher

/-! ## What the server reads -/

/-- The words of a command line. -/
abbrev CommandWords (words : List ByteString) (line : ByteString) : Prop :=
  Quoted isBlank 0x22 words line

/-- The tokenizer, run over what the line is made of: blanks between words, -/
theorem takeTokens_gap {gap : ByteString} (hgap : ∀ character ∈ gap, isBlank character = true)
    (tokens : List ByteString) (rest : ByteString) :
    takeTokens .between tokens (gap ++ rest) = takeTokens .between tokens rest := by
  induction gap with
  | nil => rfl
  | cons character gap ih =>
    rw [List.forall_mem_cons] at hgap
    simp [takeTokens, hgap.1, ih hgap.2]

/-- the letters of a word, -/
theorem takeTokens_letters {letters : ByteString}
    (hletters : ∀ character ∈ letters, isBlank character = false) (token : ByteString)
    (tokens : List ByteString) (rest : ByteString) :
    takeTokens (.word token) tokens (letters ++ rest) =
      takeTokens (.word (token ++ letters)) tokens rest := by
  induction letters generalizing token with
  | nil => simp
  | cons character letters ih =>
    rw [List.forall_mem_cons] at hletters
    simp [takeTokens, hletters.1, ih hletters.2]

/-- An unquoted word ends at a blank or with the line. -/
theorem takeTokens_border {rest : ByteString}
    (hborder : ∀ character ∈ rest.head?, isBlank character = true) (token : ByteString)
    (tokens : List ByteString) :
    takeTokens (.word token) tokens rest = takeTokens .between (tokens ++ [token]) rest := by
  cases rest with
  | nil => rfl
  | cons character rest =>
    have hblank : isBlank character = true := hborder character rfl
    simp [takeTokens, hblank]

/-- and what stands between quotes. -/
theorem takeTokens_quoted {letters : ByteString} (hletters : 0x22 ∉ letters) (token : ByteString)
    (tokens : List ByteString) (rest : ByteString) :
    takeTokens (.quoted token) tokens (letters ++ 0x22 :: rest) =
      takeTokens .between (tokens ++ [token ++ letters]) rest := by
  induction letters generalizing token with
  | nil => simp [takeTokens]
  | cons character letters ih =>
    obtain ⟨hcharacter, hletters⟩ := not_or.mp (mt List.mem_cons.mpr hletters)
    simp [takeTokens, Ne.symm hcharacter, ih hletters]

/-- A quote separates no words by itself. -/
theorem isBlank_quote : isBlank 0x22 = false := by decide

/-- One more word is taken, if there is room for it. -/
theorem room_for_token {tokens words : List ByteString} {word : ByteString}
    {taken : Option (List ByteString)}
    (htaken : (tokens ++ [word]).length ≤ maxCommandTokens → taken =
      if (tokens ++ [word]).length + words.length ≤ maxCommandTokens
      then some (tokens ++ [word] ++ words) else none) :
    (if tokens.length ≥ maxCommandTokens then none else taken) =
      if tokens.length + (word :: words).length ≤ maxCommandTokens
      then some (tokens ++ word :: words) else none := by
  rw [List.length_append, List.length_singleton] at htaken
  rw [List.length_cons]
  by_cases hfull : tokens.length ≥ maxCommandTokens
  · rw [if_pos hfull, if_neg (by omega)]
  · rw [if_neg hfull, htaken (by omega), List.append_assoc, List.singleton_append, Nat.add_assoc,
      Nat.add_comm 1]

/-- The scanner finds the words that are there, unless there are too many. -/
theorem takeTokens_eq {words : List ByteString} {line : ByteString} (h : CommandWords words line)
    {tokens : List ByteString} (htokens : tokens.length ≤ maxCommandTokens) :
    takeTokens .between tokens line =
      if tokens.length + words.length ≤ maxCommandTokens then some (tokens ++ words) else none := by
  induction h generalizing tokens with
  | blanks hgap =>
    simpa [takeTokens, htokens] using takeTokens_gap hgap tokens []
  | quoted hgap hword _ ih =>
    rw [takeTokens_gap hgap, takeTokens, isBlank_quote, if_neg Bool.false_ne_true, beq_self_eq_true,
      if_pos rfl, takeTokens_quoted hword, List.nil_append]
    exact room_for_token ih
  | plain hgap hword hquote hborder _ ih =>
    obtain ⟨first, letters, rfl⟩ := List.exists_cons_of_ne_nil hword.1
    have hletters := List.forall_mem_cons.mp hword.2
    have hfirst : ¬(first == 0x22) = true := fun hsame => hquote (by simpa using hsame)
    rw [List.append_assoc, takeTokens_gap hgap, List.cons_append, takeTokens, hletters.1,
      if_neg Bool.false_ne_true, if_neg hfirst, takeTokens_letters hletters.2,
      List.singleton_append, takeTokens_border hborder]
    exact room_for_token ih

namespace TokenState

/-- What was read of the word the scanner is inside of. -/
def text : TokenState → ByteString
  | between => []
  | word token => token
  | quoted token => 0x22 :: token

/-- What the loops have checked of it. -/
def Checked : TokenState → Prop
  | between => True
  | word token => IsWord isBlank token ∧ token.head? ≠ some 0x22
  | quoted token => 0x22 ∉ token

/-- The invariant of a token that is being read: a word begins with no quote, -/
theorem Checked.begin_word {character : UInt8} (hblank : isBlank character = false)
    (hquote : character ≠ 0x22) : (word [character]).Checked :=
  ⟨⟨List.cons_ne_nil _ _, by simpa using hblank⟩, by simpa using hquote⟩

/-- goes on without a blank, -/
theorem Checked.push_word {token : ByteString} {character : UInt8} (h : (word token).Checked)
    (hblank : isBlank character = false) : (word (token ++ [character])).Checked := by
  refine ⟨⟨by simp, ?_⟩, ?_⟩
  · simpa [or_imp, forall_and, hblank] using h.1.2
  · rw [List.head?_append_of_ne_nil _ h.1.1]
    exact h.2

/-- and ends, if it is quoted, at the first quote. -/
theorem Checked.push_quoted {token : ByteString} {character : UInt8} (h : (quoted token).Checked)
    (hquote : character ≠ 0x22) : (quoted (token ++ [character])).Checked := by
  simpa [Checked, hquote.symm] using h

end TokenState

/-- What the scanner finds is there, the word it is inside of included. -/
theorem commandWords_of_takeTokens {line : ByteString} (state : TokenState)
    {tokens out : List ByteString} (hstate : state.Checked)
    (htake : takeTokens state tokens line = some out) :
    ∃ words, out = tokens ++ words ∧ CommandWords words (state.text ++ line) := by
  induction line generalizing state tokens with
  | nil =>
    cases state with
    | between =>
      obtain rfl : tokens = out := Option.some.inj htake
      exact ⟨[], by simp, .blanks (by simp [TokenState.text])⟩
    | word token =>
      obtain rfl : tokens ++ [token] = out := Option.some.inj htake
      have hnothing : CommandWords [] [] := .blanks (by simp)
      exact ⟨[token], rfl, .cons_plain hstate.1 hstate.2 (by simp) hnothing⟩
    | quoted token => cases htake
  | cons character line ih =>
    cases state with
    | between =>
      rw [takeTokens] at htake
      split_ifs at htake with hblank hfull hquote
      · obtain ⟨words, hout, hwords⟩ := ih .between trivial htake
        exact ⟨words, hout, hwords.cons_blank hblank⟩
      · obtain ⟨words, hout, hwords⟩ := ih (.quoted []) List.not_mem_nil htake
        obtain rfl : character = 0x22 := by simpa using hquote
        exact ⟨words, hout, hwords⟩
      · have hbegun : (TokenState.word [character]).Checked :=
          .begin_word (by simpa using hblank) (by simpa using hquote)
        exact ih _ hbegun htake
    | word token =>
      rw [takeTokens] at htake
      split_ifs at htake with hblank
      · obtain ⟨words, rfl, hwords⟩ := ih .between trivial htake
        refine ⟨token :: words, by simp, ?_⟩
        exact .cons_plain hstate.1 hstate.2 (by simp [hblank]) (hwords.cons_blank hblank)
      · obtain ⟨words, hout, hwords⟩ := ih _ (hstate.push_word (by simpa using hblank)) htake
        exact ⟨words, hout, by simpa [TokenState.text] using hwords⟩
    | quoted token =>
      rw [takeTokens] at htake
      split_ifs at htake with hquote
      · obtain rfl : character = 0x22 := by simpa using hquote
        obtain ⟨words, rfl, hwords⟩ := ih .between trivial htake
        exact ⟨token :: words, by simp, .cons_quoted hstate hwords⟩
      · obtain ⟨words, hout, hwords⟩ := ih _ (hstate.push_quoted (by simpa using hquote)) htake
        exact ⟨words, hout, by simpa [TokenState.text] using hwords⟩

/-- `parse_admin_command` accepts the lines of one to sixteen words, and returns them. -/
theorem parseAdminCommand_eq_some_iff {line : ByteString} {command : AdminCommand} :
    parseAdminCommand line = some command ↔
      CommandWords (command.verb :: command.arguments) line ∧
        command.arguments.length < maxCommandTokens := by
  have hnone : ([] : List ByteString).length ≤ maxCommandTokens := Nat.zero_le _
  constructor
  · intro hparse
    rw [parseAdminCommand] at hparse
    split at hparse
    · next verb arguments htake =>
      obtain rfl : { verb, arguments } = command := Option.some.inj hparse
      obtain ⟨words, hout, hwords⟩ := commandWords_of_takeTokens .between trivial htake
      obtain rfl : words = verb :: arguments := by simpa using hout.symm
      rw [TokenState.text, List.nil_append] at hwords
      have hcount := takeTokens_eq hwords hnone
      refine ⟨hwords, show arguments.length + 1 ≤ maxCommandTokens from ?_⟩
      by_contra hmany
      rw [htake, List.length_cons, List.length_nil, Nat.zero_add, if_neg hmany] at hcount
      cases hcount
    · cases hparse
  · rintro ⟨hwords, hlength⟩
    have hroom : ([] : List ByteString).length + (command.verb :: command.arguments).length ≤
        maxCommandTokens := by
      rw [List.length_cons, List.length_nil, Nat.zero_add]
      exact hlength
    rw [parseAdminCommand, takeTokens_eq hwords hnone, if_pos hroom]
    rfl

/-! ## `adminctl_main` -/

/-- `quote_if_needed` -/
def quoteIfNeeded (argument : ByteString) : ByteString :=
  if 0x20 ∉ argument ∧ 0x09 ∉ argument then argument else 0x22 :: (argument ++ [0x22])

/-- The path of the socket, and the arguments that are the command. -/
def adminctlArguments : List ByteString → ByteString × List ByteString
  | option :: path :: command =>
    if option = ascii "--socket" then (path, command)
    else (ascii "run/hypercom-admin.sock", option :: path :: command)
  | command => (ascii "run/hypercom-admin.sock", command)

/-- One round of the loop of `main`. -/
def adminctlAppend (line argument : ByteString) : ByteString :=
  (if line.isEmpty then line else line ++ [0x20]) ++ quoteIfNeeded argument

/-- `main`: where it connects to and what it sends there, unless it prints its usage. -/
def adminctlMain (arguments : List ByteString) : Option (ByteString × ByteString) :=
  match adminctlArguments arguments with
  | (_, []) => none
  | (path, command@(_ :: _)) => some (path, command.foldl adminctlAppend [] ++ [0x0A])

/-- What a command is sent as, up to the first newline in it. -/
def adminctlLine (command : List ByteString) : ByteString :=
  (command.foldl adminctlAppend []).takeWhile (· != 0x0A)

/-! ## Arguments in a line -/

namespace Argument

/-- `quote_if_needed` leaves it as it is. -/
abbrev Plain (argument : ByteString) : Prop := 0x20 ∉ argument ∧ 0x09 ∉ argument

/-- The server can take the argument out of a line again. -/
def Clean (argument : ByteString) : Prop :=
  0x0A ∉ argument ∧
    if Plain argument then argument ≠ [] ∧ 0x0D ∉ argument ∧ argument.head? ≠ some 0x22
    else 0x22 ∉ argument

instance : DecidablePred Clean := fun argument =>
  inferInstanceAs (Decidable (0x0A ∉ argument ∧
    if Plain argument then argument ≠ [] ∧ 0x0D ∉ argument ∧ argument.head? ≠ some 0x22
    else 0x22 ∉ argument))

/-- What the server takes for the argument: outside of quotes a carriage return ends a
word. -/
def pieces (argument : ByteString) : List ByteString :=
  if Plain argument then split (· == 0x0D) [] argument else [argument]

/-- No newline ends the line too early, and no quote opens or closes anything. -/
def Tame (argument : ByteString) : Prop :=
  0x0A ∉ argument ∧
    if Plain argument then ∀ piece ∈ pieces argument, piece.head? ≠ some 0x22
    else 0x22 ∉ argument

/-- The one blank that a plain argument may have in it is a carriage return. -/
theorem isBlank_of_plain {argument : ByteString} (hplain : Plain argument) :
    ∀ character ∈ argument, isBlank character = (character == 0x0D) := by
  intro character hmem
  have hspace : character ≠ 0x20 := fun hsame => hplain.1 (hsame ▸ hmem)
  have htab : character ≠ 0x09 := fun hsame => hplain.2 (hsame ▸ hmem)
  simp [isBlank, hspace, htab]

/-- A word without blanks is plain. -/
theorem plain_of_isWord {word : ByteString} (hword : IsWord isBlank word) : Plain word :=
  ⟨fun hmem => absurd (hword.2 0x20 hmem) (by decide),
    fun hmem => absurd (hword.2 0x09 hmem) (by decide)⟩

/-- What a carriage return makes of an argument. -/
theorem split_spaced (argument : ByteString) :
    Spaced (· == 0x0D) (split (· == 0x0D) [] argument) argument :=
  split_eq_iff.mp rfl

/-- A text without the letter it is cut at is one word. -/
theorem split_of_not_mem {argument : ByteString} (hne : argument ≠ []) (hmem : 0x0D ∉ argument) :
    split (· == 0x0D) [] argument = [argument] := by
  have hletters : ∀ character ∈ argument, (character == 0x0D) = false := by
    intro character hcharacter
    exact beq_eq_false_iff_ne.mpr fun hsame => hmem (hsame ▸ hcharacter)
  have hone : split (· == 0x0D) [] (argument ++ []) = split (· == 0x0D) ([] ++ argument) [] :=
    split_letters hletters [] []
  rw [List.append_nil, List.nil_append] at hone
  rw [hone, split_border hne (by simp), split, List.isEmpty_nil, if_pos rfl]

/-- What the server reads where the tool has written the argument. -/
theorem Tame.commandWords {argument : ByteString} (h : Tame argument) :
    CommandWords (pieces argument) (quoteIfNeeded argument) := by
  obtain ⟨-, hquotes⟩ := h
  by_cases hplain : Plain argument
  · rw [if_pos hplain] at hquotes
    have hspaced := (split_spaced argument).quoted (isBlank_of_plain hplain)
      (by simpa only [pieces, if_pos hplain] using hquotes)
    rw [pieces, quoteIfNeeded, if_pos hplain, if_pos hplain]
    exact hspaced
  · rw [if_neg hplain] at hquotes
    rw [pieces, quoteIfNeeded, if_neg hplain, if_neg hplain]
    exact .cons_quoted hquotes (.blanks (by simp))

/-- A clean argument is one piece, -/
theorem Clean.pieces_eq {argument : ByteString} (h : Clean argument) :
    pieces argument = [argument] := by
  rw [pieces]
  split_ifs with hplain
  · obtain ⟨hne, hreturn, -⟩ : _ ∧ _ ∧ _ := by simpa only [if_pos hplain] using h.2
    exact split_of_not_mem hne hreturn
  · rfl

/-- and is read as it was typed. -/
theorem Clean.tame {argument : ByteString} (h : Clean argument) : Tame argument := by
  refine ⟨h.1, ?_⟩
  rw [h.pieces_eq]
  have hquotes := h.2
  split_ifs at hquotes ⊢ with hplain
  · simpa using hquotes.2.2
  · exact hquotes

/-- The server's words could have been typed in the first place. -/
theorem Tame.clean_of_mem {argument piece : ByteString} (h : Tame argument)
    (hmem : piece ∈ pieces argument) : Clean piece := by
  obtain ⟨hnewline, hquotes⟩ := h
  by_cases hplain : Plain argument
  · rw [if_pos hplain] at hquotes
    have hquote : piece.head? ≠ some 0x22 := hquotes piece hmem
    rw [pieces, if_pos hplain] at hmem
    obtain ⟨hword, hsubset⟩ := (split_spaced argument).of_mem hmem
    have hpiece : Plain piece :=
      ⟨fun hspace => hplain.1 (hsubset hspace), fun htab => hplain.2 (hsubset htab)⟩
    have hreturn : 0x0D ∉ piece := fun hmem => by simpa using hword.2 0x0D hmem
    refine ⟨fun hmem => hnewline (hsubset hmem), ?_⟩
    rw [if_pos hpiece]
    exact ⟨hword.1, hreturn, hquote⟩
  · rw [pieces, if_neg hplain, List.mem_singleton] at hmem
    subst hmem
    exact ⟨hnewline, by rwa [if_neg hplain] at hquotes ⊢⟩

/-- What the server reads in one line was tame, whoever typed it. -/
theorem tame_of_commandWords {words : List ByteString} {line word : ByteString}
    (h : CommandWords words line) (hline : 0x0A ∉ line) (hmem : word ∈ words) : Tame word := by
  refine ⟨fun hnewline => hline (h.subset hmem hnewline), ?_⟩
  obtain hquote | ⟨hword, hquote⟩ := h.of_mem hmem
  · split_ifs with hplain
    · intro piece hpiece hhead
      rw [pieces, if_pos hplain] at hpiece
      exact hquote (((split_spaced word).of_mem hpiece).2 (List.mem_of_mem_head? hhead))
    · exact hquote
  · have hreturn : 0x0D ∉ word := fun hmem => absurd (hword.2 0x0D hmem) (by decide)
    have hplain := plain_of_isWord hword
    rw [if_pos hplain, pieces, if_pos hplain, split_of_not_mem hword.1 hreturn]
    simpa using hquote

end Argument

/-! ## The line of a command -/

open Argument

/-- The line holds the words of the arguments, one after another, -/
theorem foldl_adminctlAppend {command : List ByteString} (hcommand : ∀ argument ∈ command, Tame argument)
    {words : List ByteString} {line : ByteString} (h : CommandWords words line) :
    CommandWords (words ++ command.flatMap pieces) (command.foldl adminctlAppend line) := by
  induction command generalizing words line with
  | nil => simpa using h
  | cons argument command ih =>
    obtain ⟨hargument, hcommand⟩ := List.forall_mem_cons.mp hcommand
    have hone : CommandWords (words ++ pieces argument) (adminctlAppend line argument) := by
      cases line with
      | nil =>
        obtain rfl := h.eq_nil
        exact hargument.commandWords
      | cons first line =>
        have hspace : isBlank 0x20 = true := rfl
        simpa [adminctlAppend] using h.append_blank hspace hargument.commandWords
    rw [List.flatMap_cons, ← List.append_assoc]
    exact ih hcommand hone

/-- and no newline but the one that ends it. -/
theorem newline_foldl_adminctlAppend {command : List ByteString}
    (hcommand : ∀ argument ∈ command, 0x0A ∉ argument) {line : ByteString} (hline : 0x0A ∉ line) :
    0x0A ∉ command.foldl adminctlAppend line := by
  induction command generalizing line with
  | nil => exact hline
  | cons argument command ih =>
    obtain ⟨hargument, hcommand⟩ := List.forall_mem_cons.mp hcommand
    refine ih hcommand ?_
    rw [adminctlAppend, quoteIfNeeded]
    split_ifs <;> simp [hline, hargument]

/-- The line of tame arguments is their pieces, all in one line. -/
theorem adminctlLine_words {command : List ByteString}
    (hcommand : ∀ argument ∈ command, Tame argument) :
    CommandWords (command.flatMap pieces) (adminctlLine command) := by
  have hnewline : 0x0A ∉ command.foldl adminctlAppend [] :=
    newline_foldl_adminctlAppend (fun argument hmem => (hcommand argument hmem).1) List.not_mem_nil
  have hline : adminctlLine command = command.foldl adminctlAppend [] :=
    List.takeWhile_eq_self_iff.mpr fun character hmem =>
      bne_iff_ne.mpr fun hsame => hnewline (hsame ▸ hmem)
  rw [hline]
  exact foldl_adminctlAppend hcommand (.blanks (by simp))

theorem newline_not_mem_adminctlLine (command : List ByteString) : 0x0A ∉ adminctlLine command := by
  intro hmem
  simpa using List.mem_takeWhile_imp hmem

/-- A line is read in one way only. -/
theorem commandWords_unique {words other : List ByteString} {line : ByteString}
    (h : CommandWords words line) (hlength : words.length ≤ maxCommandTokens)
    (hother : CommandWords other line) : other = words := by
  have hnone : ([] : List ByteString).length ≤ maxCommandTokens := Nat.zero_le _
  have hsame := (takeTokens_eq h hnone).symm.trans (takeTokens_eq hother hnone)
  rw [List.length_nil, Nat.zero_add, Nat.zero_add, if_pos hlength] at hsame
  split_ifs at hsame
  exact (Option.some.inj hsame).symm

/-- The server reads the typed words exactly if each of them is clean. -/
theorem commandWords_adminctlLine_iff {command : List ByteString}
    (hlength : command.length ≤ maxCommandTokens) :
    CommandWords command (adminctlLine command) ↔ ∀ argument ∈ command, Clean argument := by
  constructor
  · intro hread argument hmem
    have htame : ∀ argument ∈ command, Tame argument := fun _ hmem =>
      tame_of_commandWords hread (newline_not_mem_adminctlLine command) hmem
    have hpieces : command.flatMap pieces = command :=
      commandWords_unique hread hlength (adminctlLine_words htame)
    rw [← hpieces] at hmem
    obtain ⟨typed, htyped, hpiece⟩ := List.mem_flatMap.mp hmem
    exact (htame typed htyped).clean_of_mem hpiece
  · intro hclean
    have hpieces : command.flatMap pieces = command := by
      rw [List.flatMap_congr fun argument hmem => (hclean argument hmem).pieces_eq]
      exact List.flatMap_singleton' command
    have hread := adminctlLine_words fun argument hmem => (hclean argument hmem).tame
    rwa [hpieces] at hread

/-! ## What the server executes -/

/-- What the commands come to that are executed on a connection, serviced until it is
closed. -/
def executedReplies (execute : AdminCommand → AdminReply) :
    List AdminAnswers → AdminConnection → List AdminReply
  | [], _ => []
  | answers :: rounds, connection =>
    let out := serviceAdminConnection execute answers connection
    out.2.toList ++
      match out.1 with
      | none => []
      | some connection => executedReplies execute rounds connection

/-- What `recv` has delivered in these rounds is of this text, in the pieces that fit its
buffer. -/
def Delivers (rounds : List AdminAnswers) (text : ByteString) : Prop :=
  (rounds.flatMap AdminAnswers.received).flatten <+: text ∧
    ∀ answers ∈ rounds, ∀ chunk ∈ answers.received, chunk ≠ [] ∧ chunk.length ≤ 1024

section Rounds

variable {execute : AdminCommand → AdminReply}

/-- What fits the buffer is all there, however it came. -/
theorem readIntoBuffer_eq (ended : Bool) {chunks : List ByteString} {buffer : ByteString}
    (hfits : (buffer ++ chunks.flatten).length ≤ maxRequestBytes) :
    readIntoBuffer ended chunks buffer = (!ended, buffer ++ chunks.flatten) := by
  induction chunks generalizing buffer with
  | nil => simp [readIntoBuffer]
  | cons chunk chunks ih =>
    rw [List.flatten_cons, ← List.append_assoc] at hfits ⊢
    have hchunk : ¬buffer.length + chunk.length > maxRequestBytes := by
      rw [List.length_append, List.length_append] at hfits
      omega
    rw [readIntoBuffer, if_neg hchunk, ih hfits]

/-- A connection that has its answer keeps it, and executes nothing more. -/
theorem serviceAdminConnection_ready (execute : AdminCommand → AdminReply)
    (answers : AdminAnswers) {connection : AdminConnection} (hready : connection.responseReady = true) :
    (serviceAdminConnection execute answers connection).2 = none ∧
      ∀ after, (serviceAdminConnection execute answers connection).1 = some after →
        after.responseReady = true := by
  simp only [serviceAdminConnection, hready, if_true, Bool.not_true, Bool.false_eq_true, if_false]
  split_ifs
  · exact ⟨rfl, fun after hafter => by cases hafter⟩
  · exact ⟨rfl, fun after hafter => by cases hafter⟩
  · refine ⟨rfl, fun after hafter => ?_⟩
    obtain rfl := Option.some.inj hafter
    rfl

/-- After a response is ready nothing more is executed. -/
theorem executedReplies_ready {connection : AdminConnection}
    (hready : connection.responseReady = true) (rounds : List AdminAnswers) :
    executedReplies execute rounds connection = [] := by
  induction rounds generalizing connection with
  | nil => rfl
  | cons answers rounds ih =>
    obtain ⟨hnone, hstill⟩ := serviceAdminConnection_ready execute answers hready
    simp only [executedReplies, hnone, Option.toList_none, List.nil_append]
    split
    · rfl
    · next after hafter => exact ih (hstill after hafter)

/-- A line makes one. -/
theorem buildResponse_ready (execute : AdminCommand → AdminReply) {connection : AdminConnection}
    (hline : 0x0A ∈ connection.input) :
    (buildResponse execute connection).1.responseReady = true := by
  rw [buildResponse, if_pos hline]
  dsimp only
  split <;> rfl

/-- A line that has arrived is answered. -/
theorem serviceAdminConnection_line {answers : AdminAnswers} {connection after : AdminConnection}
    (hready : connection.responseReady = false) {input : ByteString}
    (hread : readIntoBuffer answers.ended answers.received connection.input = (true, input))
    (hline : 0x0A ∈ input)
    (hafter : (serviceAdminConnection execute answers connection).1 = some after) :
    after.responseReady = true := by
  simp only [serviceAdminConnection, hready, hread, Bool.false_eq_true, if_false,
    Bool.not_true] at hafter
  split_ifs at hafter
  all_goals
    obtain rfl := Option.some.inj hafter
    exact buildResponse_ready execute hline

/-- Without a newline the connection waits, and nothing is executed. -/
theorem serviceAdminConnection_waiting {answers : AdminAnswers} {connection : AdminConnection}
    (hready : connection.responseReady = false) {input : ByteString}
    (hread : readIntoBuffer answers.ended answers.received connection.input = (true, input))
    (hline : 0x0A ∉ input) :
    serviceAdminConnection execute answers connection = (some { connection with input }, none) := by
  simp [serviceAdminConnection, hready, hread, buildResponse, hline]

/-- The first line of what has come is the first line of what was sent. -/
theorem takeWhile_of_prefix {input text : ByteString} (hinitial : input <+: text)
    (hline : 0x0A ∈ input) : input.takeWhile (· != 0x0A) = text.takeWhile (· != 0x0A) := by
  obtain ⟨rest, rfl⟩ := hinitial
  have hshort : (input.takeWhile (· != 0x0A)).length ≠ input.length := by
    intro hlength
    have hall : input.takeWhile (· != 0x0A) = input :=
      (List.takeWhile_prefix _).eq_of_length hlength
    rw [List.takeWhile_eq_self_iff] at hall
    exact absurd (hall 0x0A hline) (by decide)
  rw [List.takeWhile_append, if_neg hshort]

/-- Whatever arrives when, what is executed is in the first line. -/
theorem parsed_of_mem_executedReplies {text : ByteString} (hfits : text.length ≤ maxRequestBytes)
    {rounds : List AdminAnswers} {connection : AdminConnection}
    (hready : connection.responseReady = false)
    (hdelivered : connection.input ++ (rounds.flatMap AdminAnswers.received).flatten <+: text)
    {reply : AdminReply} (hmem : reply ∈ executedReplies execute rounds connection) :
    ∃ command, parseAdminCommand (text.takeWhile (· != 0x0A)) = some command ∧
      reply = execute command := by
  induction rounds generalizing connection with
  | nil => cases hmem
  | cons answers rounds ih =>
    rw [List.flatMap_cons, List.flatten_append, ← List.append_assoc] at hdelivered
    have hinput : connection.input ++ answers.received.flatten <+: text :=
      (List.prefix_append _ _).trans hdelivered
    have hread := readIntoBuffer_eq answers.ended (hinput.length_le.trans hfits)
    obtain hnow | hlater := List.mem_append.mp hmem
    · -- executed in this round
      obtain ⟨-, input, hread', hbuilt⟩ :=
        serviceAdminConnection_executed (Option.mem_toList.mp hnow)
      obtain ⟨-, rfl⟩ := Prod.mk.inj (hread.symm.trans hread')
      obtain ⟨command, hparse, hreply⟩ := buildResponse_executed hbuilt
      have hline : 0x0A ∈ connection.input ++ answers.received.flatten := by
        by_contra hnone
        rw [buildResponse, if_neg hnone] at hbuilt
        cases hbuilt
      exact ⟨command, takeWhile_of_prefix hinput hline ▸ hparse, hreply⟩
    · split at hlater
      · cases hlater
      next after hafter =>
      cases hended : answers.ended with
      | true =>
        rw [hended, Bool.not_true] at hread
        simp [serviceAdminConnection, hready, hended, hread] at hafter
      | false =>
        rw [hended, Bool.not_false] at hread
        rw [← hended] at hread
        by_cases hline : 0x0A ∈ connection.input ++ answers.received.flatten
        · rw [executedReplies_ready (serviceAdminConnection_line hready hread hline hafter)] at hlater
          cases hlater
        · rw [serviceAdminConnection_waiting hready hread hline] at hafter
          obtain rfl := Option.some.inj hafter
          refine ih ?_ ?_ hlater
          · exact hready
          · exact hdelivered

/-- One byte after the other, all of the text arrives. -/
theorem mem_executedReplies (execute : AdminCommand → AdminReply) {text : ByteString}
    (hfits : text.length ≤ maxRequestBytes) (hline : 0x0A ∈ text) {command : AdminCommand}
    (hparse : parseAdminCommand (text.takeWhile (· != 0x0A)) = some command) :
    Delivers [{ received := text.map fun byte => [byte] }] text ∧
      execute command ∈ executedReplies execute [{ received := text.map fun byte => [byte] }] {} := by
  have hflatten : (text.map fun byte => [byte]).flatten = text := by
    rw [← List.flatMap_def]
    exact List.flatMap_singleton' text
  constructor
  · refine ⟨?_, ?_⟩
    · simp only [List.flatMap_singleton, hflatten, List.prefix_rfl]
    · intro answers hanswers chunk hchunk
      rw [List.mem_singleton] at hanswers
      subst hanswers
      obtain ⟨byte, -, rfl⟩ := List.mem_map.mp hchunk
      exact ⟨List.cons_ne_nil _ _, by simp⟩
  · have hall : ([] ++ (text.map fun byte => [byte]).flatten).length ≤ maxRequestBytes := by
      rwa [hflatten]
    have hread := readIntoBuffer_eq false hall
    rw [hflatten, List.nil_append, Bool.not_false] at hread
    have hbuilt : (buildResponse execute { input := text }).2 = some (execute command) := by
      simp only [buildResponse, if_pos hline, hparse]
    have hanswered := buildResponse_ready execute (show 0x0A ∈ AdminConnection.input { input := text }
      from hline)
    refine List.mem_append_left _ (Option.mem_toList.mpr ?_)
    simp only [serviceAdminConnection, hread, Bool.not_true, Bool.false_eq_true, if_false,
      hanswered]
    split_ifs <;> exact hbuilt

end Rounds

/-! ## The command that was typed -/

/-- Whatever the server executes of what the tool sends, it is the command that was typed:
what it comes to, whatever `execute` makes of a command. -/
def NeverMistaken (arguments : List ByteString) : Prop :=
  ∀ socket text, adminctlMain arguments = some (socket, text) →
    ∀ execute rounds, Delivers rounds text → ∀ reply ∈ executedReplies execute rounds {},
      ∃ command : AdminCommand,
        command.verb :: command.arguments = (adminctlArguments arguments).2 ∧
          reply = execute command

/-- What is sent begins with the line. -/
theorem adminctlMain_eq_some {arguments : List ByteString} {socket text : ByteString}
    (hmain : adminctlMain arguments = some (socket, text)) :
    0x0A ∈ text ∧
      text.takeWhile (· != 0x0A) = adminctlLine (adminctlArguments arguments).2 := by
  rw [adminctlMain] at hmain
  split at hmain
  · cases hmain
  · next path first rest harguments =>
    obtain ⟨-, rfl⟩ := Prod.mk.inj (Option.some.inj hmain)
    refine ⟨by simp, ?_⟩
    rw [harguments, adminctlLine, List.takeWhile_append]
    split_ifs with hall
    · rw [(List.takeWhile_prefix _).eq_of_length hall]
      simp
    · rfl

/-- The tool sends nothing only if there is no command. -/
theorem adminctlMain_eq_none {arguments : List ByteString} (hmain : adminctlMain arguments = none) :
    (adminctlArguments arguments).2 = [] := by
  rw [adminctlMain] at hmain
  split at hmain
  · next harguments => rw [harguments]
  · cases hmain

/-- Never mistaken means that the line, if the server accepts it, is read as typed. -/
theorem neverMistaken_iff_line {arguments : List ByteString} {socket text : ByteString}
    (hmain : adminctlMain arguments = some (socket, text))
    (hfits : text.length ≤ maxRequestBytes) :
    NeverMistaken arguments ↔
      ∀ command, parseAdminCommand (adminctlLine (adminctlArguments arguments).2) = some command →
        command.verb :: command.arguments = (adminctlArguments arguments).2 := by
  obtain ⟨hnewline, hline⟩ := adminctlMain_eq_some hmain
  rw [← hline]
  constructor
  · -- `execute` may tell the command from every other one
    intro h command hparse
    let execute (other : AdminCommand) : AdminReply :=
      { text := [], database := {}, closeRequests := if other = command then [0] else [] }
    obtain ⟨hdelivers, hmem⟩ := mem_executedReplies execute hfits hnewline hparse
    obtain ⟨typed, htyped, hsame⟩ := h socket text hmain execute _ hdelivers _ hmem
    have hrequests : (if command = command then [0] else []) =
        if typed = command then [0] else ([] : List ℤ) := congrArg AdminReply.closeRequests hsame
    rw [if_pos rfl] at hrequests
    split_ifs at hrequests with heq
    rwa [← heq]
  · intro h socket' text' hmain' execute rounds hdelivers reply hmem
    obtain ⟨rfl, rfl⟩ := Prod.mk.inj (Option.some.inj (hmain.symm.trans hmain'))
    have hdelivered : ([] : ByteString) ++ (rounds.flatMap AdminAnswers.received).flatten <+: text :=
      hdelivers.1
    obtain ⟨command, hparse, hreply⟩ := parsed_of_mem_executedReplies hfits rfl hdelivered hmem
    exact ⟨command, h command hparse, hreply⟩

/-- The tool and the server agree on the command if each argument is clean, and otherwise
only if the server refuses the line: because a quote in it stays open, or because it has
no word or too many. -/
theorem adminctl_never_mistaken_iff (arguments : List ByteString)
    (hcount : (adminctlArguments arguments).2.length ≤ maxCommandTokens)
    (hfits : ∀ socket text, adminctlMain arguments = some (socket, text) →
      text.length ≤ maxRequestBytes) :
    NeverMistaken arguments ↔
      (∀ argument ∈ (adminctlArguments arguments).2, Argument.Clean argument) ∨
        ¬∃ words, CommandWords words (adminctlLine (adminctlArguments arguments).2) ∧
          words ≠ [] ∧ words.length ≤ maxCommandTokens := by
  cases hmain : adminctlMain arguments with
  | none =>
    have hnever : NeverMistaken arguments := by
      intro socket text hsome
      rw [hmain] at hsome
      cases hsome
    have hempty := adminctlMain_eq_none hmain
    exact iff_of_true hnever (.inl (by simp [hempty]))
  | some sent =>
    obtain ⟨socket, text⟩ := sent
    rw [neverMistaken_iff_line hmain (hfits socket text hmain)]
    rw [← commandWords_adminctlLine_iff hcount]
    constructor
    · intro h
      by_contra hneither
      obtain ⟨hother, hwords⟩ := not_or.mp hneither
      obtain ⟨words, hread, hne, hlength⟩ := not_not.mp hwords
      obtain ⟨verb, rest, rfl⟩ := List.exists_cons_of_ne_nil hne
      have hparse : parseAdminCommand (adminctlLine (adminctlArguments arguments).2) =
          some { verb, arguments := rest } := parseAdminCommand_eq_some_iff.mpr ⟨hread, hlength⟩
      exact hother (h _ hparse ▸ hread)
    · rintro (hread | hrefused) command hparse
      · exact commandWords_unique hread hcount (parseAdminCommand_eq_some_iff.mp hparse).1
      · obtain ⟨hread, hlength⟩ := parseAdminCommand_eq_some_iff.mp hparse
        exact absurd ⟨_, hread, List.cons_ne_nil _ _, hlength⟩ hrefused

/-- An announcement with blanks in it is read as it was typed. -/
theorem announcement_never_mistaken :
    NeverMistaken [ascii "motd", ascii "set", ascii "maintenance samedi 14h"] := by
  have hfits : ∀ socket text,
      adminctlMain [ascii "motd", ascii "set", ascii "maintenance samedi 14h"] =
        some (socket, text) → text.length ≤ maxRequestBytes := by
    intro socket text hmain
    obtain ⟨-, rfl⟩ := Prod.mk.inj (Option.some.inj hmain)
    decide
  exact (adminctl_never_mistaken_iff _ (by decide) hfits).mpr (.inl (by decide))

/-- A newline in an announcement ends the command: the first line of it is published. -/
theorem newline_cuts_announcement :
    ∃ text, adminctlMain [ascii "motd", ascii "set", ascii "samedi\ndimanche"] =
        some (ascii "run/hypercom-admin.sock", text) ∧ text.length ≤ maxRequestBytes ∧
      ¬NeverMistaken [ascii "motd", ascii "set", ascii "samedi\ndimanche"] := by
  have hmain : adminctlMain [ascii "motd", ascii "set", ascii "samedi\ndimanche"] =
      some (ascii "run/hypercom-admin.sock", ascii "motd set samedi\ndimanche\n") := by decide
  have hparse : parseAdminCommand (ascii "motd set samedi") =
      some { verb := ascii "motd", arguments := [ascii "set", ascii "samedi"] } := by decide
  refine ⟨_, hmain, by decide, fun hnever => ?_⟩
  have htyped := (neverMistaken_iff_line hmain (by decide)).mp hnever _ hparse
  exact absurd htyped (by decide)

end HyperCom
