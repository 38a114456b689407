import HeapScope.Command
import HeapScope.Proofs.Location
import HeapScope.Proofs.Text.Words

/-!
# Command lines

`Writes` says on which lines a command may be written: a keyword of its verb and its arguments,
with blanks between the words and around the line. Reading such a line gives the command back. Only
commands whose text is made of words with single spaces between them can be written, and nothing
else is ever read.

## Shape of the argument

* `lookup_of_mem` for keywords and modes: no keyword and no mode stands twice in its table.
* `ofArguments_of_arguments`: the arguments of a command are read as the command.
* `spelled_of_ofArguments`: what is read from words is spelled in words.
-/

namespace HeapScope.Command

variable {c : Command} {line : String} {args : List String}

/-! ## Written commands -/

/-- A text of words with single spaces between them. -/
def IsPhrase (s : String) : Prop :=
  ∃ ws : List String, ws ≠ [] ∧ (∀ w ∈ ws, Text.IsWord w.toList) ∧ s = " ".intercalate ws

/-- Whether the text that a command keeps, if it keeps one, is a phrase. -/
def IsSpelled : Command → Prop
  | print _ text | children _ text | type _ text | find text => IsPhrase text
  | breakOn _ | resume | images | help | quit => True

/-- What a command asks for. -/
def verb : Command → Verb
  | print _ _ => .print
  | children _ _ => .children
  | type _ _ => .type
  | breakOn _ => .breakOn
  | resume => .resume
  | images => .images
  | find _ => .find
  | help => .help
  | quit => .quit

/-- The words that may be written behind the keyword of a command. -/
inductive Arguments : Command → List String → Prop
  | print {l : ValueLocation} {ws : List String} (some_word : ws ≠ []) :
    Arguments (print l (" ".intercalate ws)) (l.text :: ws)
  | children {l : ValueLocation} {ws : List String} (some_word : ws ≠ []) :
    Arguments (children l (" ".intercalate ws)) (l.text :: ws)
  | type {l : ValueLocation} {ws : List String} (some_word : ws ≠ []) :
    Arguments (type l (" ".intercalate ws)) (l.text :: ws)
  | mode {name : String} {mode : CatchMode} (listed : (name, mode) ∈ CatchMode.arguments) :
    Arguments (breakOn mode) [name]
  | defaultMode : Arguments (breakOn .thrown) []
  | find {ws : List String} (some_word : ws ≠ []) : Arguments (find (" ".intercalate ws)) ws
  | resume : Arguments resume []
  | images : Arguments images []
  | help : Arguments help []
  | quit : Arguments quit []

/-- Whether a command is written on a line. -/
def Writes (c : Command) (line : String) : Prop :=
  ∃ keyword args lead body, (keyword, c.verb) ∈ keywords ∧ c.Arguments args ∧ Text.IsGap lead ∧
    Text.IsLine ((keyword :: args).map String.toList) body ∧ line.toList = lead ++ body

/-! ## Reading what is written -/

/-- No keyword stands for two verbs. -/
theorem lookup_of_mem {keyword : String} {verb : Verb} (h : (keyword, verb) ∈ keywords) :
    keywords.lookup keyword = some verb := by
  have all : ∀ e ∈ keywords, keywords.lookup e.1 = some e.2 := by decide
  exact all _ h

/-- A location with words behind it is read back as both. -/
theorem readValue_text (l : ValueLocation) {ws : List String} (some_word : ws ≠ []) :
    readValue (l.text :: ws) = some (l, " ".intercalate ws) := by
  obtain ⟨word, words, rfl⟩ := List.exists_cons_of_ne_nil some_word
  rw [readValue, l.ofText_text]

/-- The arguments of a command are read as the command. -/
theorem ofArguments_of_arguments (h : c.Arguments args) : ofArguments c.verb args = some c := by
  cases h with
  | print some_word | children some_word | type some_word =>
    rw [verb, ofArguments, readValue_text _ some_word]
    rfl
  | mode listed =>
    have all : ∀ e ∈ CatchMode.arguments, CatchMode.arguments.lookup e.1 = some e.2 := by decide
    rw [verb, ofArguments, all _ listed]
    rfl
  | find some_word =>
    obtain ⟨word, words, rfl⟩ := List.exists_cons_of_ne_nil some_word
    rfl
  | _ => rfl

/-- A command is read from the lines on which it is written. -/
theorem ofLine_of_writes (h : c.Writes line) : ofLine line = some c := by
  obtain ⟨keyword, args, lead, body, listed, arguments, blanks, words, whole⟩ := h
  have strings : (keyword :: args).map (String.ofList ∘ String.toList) = keyword :: args :=
    List.map_id'' (fun _ => String.ofList_toList) _
  rw [ofLine, whole, Text.words_gap_append blanks, Text.words_of_isLine words, List.map_map,
    strings]
  dsimp only
  rw [lookup_of_mem listed]
  exact ofArguments_of_arguments arguments

/-! ## Spelling -/

/-- The words behind a location are a phrase. -/
theorem isPhrase_of_readValue {l : ValueLocation} {text : String}
    (words : ∀ a ∈ args, Text.IsWord a.toList) (h : readValue args = some (l, text)) :
    IsPhrase text := by
  rw [readValue.eq_def] at h
  split at h
  case h_1 location word rest =>
    split at h
    case h_1 =>
      cases h
      exact ⟨word :: rest, List.cons_ne_nil _ _,
        fun w mem => words w (List.mem_cons_of_mem _ mem), rfl⟩
    case h_2 => cases h
  case h_2 => cases h

/-- What is read from words is spelled in words. -/
theorem isSpelled_of_ofArguments {verb : Verb} (words : ∀ a ∈ args, Text.IsWord a.toList)
    (h : ofArguments verb args = some c) : c.IsSpelled := by
  rw [ofArguments.eq_def] at h
  split at h
  case h_1 | h_2 | h_3 =>
    obtain ⟨⟨l, text⟩, read, rfl⟩ := Option.map_eq_some_iff.1 h
    exact isPhrase_of_readValue words read
  case h_5 =>
    obtain ⟨mode, -, rfl⟩ := Option.map_eq_some_iff.1 h
    trivial
  case h_9 some_word =>
    cases h
    exact ⟨_, some_word, words, rfl⟩
  case h_8 => cases h
  case h_4 | h_6 | h_7 | h_10 | h_11 =>
    cases h
    trivial

/-- Every command that is read is spelled in words. -/
theorem isSpelled_of_ofLine (h : ofLine line = some c) : c.IsSpelled := by
  have words : ∀ w ∈ (Text.words line.toList).map String.ofList, Text.IsWord w.toList := by
    intro w mem
    obtain ⟨v, found, rfl⟩ := List.mem_map.1 mem
    rw [String.toList_ofList]
    exact Text.isWord_of_mem_words found
  rw [ofLine] at h
  split at h
  case h_1 => cases h
  case h_2 keyword args split =>
    obtain ⟨verb, -, read⟩ := Option.bind_eq_some_iff.1 h
    refine isSpelled_of_ofArguments (fun a mem => words a ?_) read
    rw [split]
    exact List.mem_cons_of_mem _ mem

/-! ## Writing -/

/-- Every keyword is one word. -/
theorem isWord_of_mem_keywords {keyword : String} {verb : Verb} (h : (keyword, verb) ∈ keywords) :
    Text.IsWord keyword.toList := by
  have all : ∀ e ∈ keywords, Text.IsWord e.1.toList := by decide
  exact all _ h

/-- Every verb has a keyword. -/
theorem exists_keyword (verb : Verb) : ∃ keyword, (keyword, verb) ∈ keywords := by
  have listed : ∃ e ∈ keywords, e.2 = verb := by cases verb <;> decide
  obtain ⟨e, mem, rfl⟩ := listed
  exact ⟨e.1, mem⟩

/-- A command that is spelled in words has arguments that are words. -/
theorem exists_arguments (h : c.IsSpelled) :
    ∃ args, c.Arguments args ∧ ∀ a ∈ args, Text.IsWord a.toList := by
  have behind {l : ValueLocation} {ws : List String} (words : ∀ w ∈ ws, Text.IsWord w.toList) :
      ∀ a ∈ l.text :: ws, Text.IsWord a.toList :=
    List.forall_mem_cons.2 ⟨l.isWord_text, words⟩
  cases c with
  | print l text =>
    obtain ⟨ws, some_word, words, rfl⟩ := h
    exact ⟨_, .print some_word, behind words⟩
  | children l text =>
    obtain ⟨ws, some_word, words, rfl⟩ := h
    exact ⟨_, .children some_word, behind words⟩
  | type l text =>
    obtain ⟨ws, some_word, words, rfl⟩ := h
    exact ⟨_, .type some_word, behind words⟩
  | find text =>
    obtain ⟨ws, some_word, words, rfl⟩ := h
    exact ⟨_, .find some_word, words⟩
  | breakOn mode =>
    have listed : ∃ e ∈ CatchMode.arguments, e.2 = mode ∧ Text.IsWord e.1.toList := by
      cases mode <;> decide
    obtain ⟨e, mem, rfl, word⟩ := listed
    exact ⟨_, .mode mem, List.forall_mem_singleton.2 word⟩
  | resume => exact ⟨_, .resume, nofun⟩
  | images => exact ⟨_, .images, nofun⟩
  | help => exact ⟨_, .help, nofun⟩
  | quit => exact ⟨_, .quit, nofun⟩

/-- A command that is spelled in words is written on some line. -/
theorem exists_writes (h : c.IsSpelled) : ∃ line, c.Writes line := by
  obtain ⟨args, arguments, words⟩ := exists_arguments h
  obtain ⟨keyword, listed⟩ := exists_keyword c.verb
  have all : ∀ w ∈ (keyword :: args).map String.toList, Text.IsWord w := by
    rw [List.forall_mem_map]
    exact List.forall_mem_cons.2 ⟨isWord_of_mem_keywords listed, words⟩
  refine ⟨String.ofList (Text.unwords ((keyword :: args).map String.toList)), keyword, args, [], _,
    listed, arguments, nofun, Text.isLine_unwords (List.cons_ne_nil _ _) all, ?_⟩
  rw [String.toList_ofList, List.nil_append]

/-- On whatever line a command is written, it is read back. The commands that can be written are
those whose text is made of words with single spaces between them, and so is the text of every
command that is read. -/
theorem written_lines_read_back :
    (∀ (c : Command) (line : String), c.Writes line → ofLine line = some c) ∧
      (∀ c : Command, c.IsSpelled ↔ ∃ line, c.Writes line) ∧
      ∀ (line : String) (c : Command), ofLine line = some c → c.IsSpelled := by
  refine ⟨fun c line => ofLine_of_writes, fun c => ⟨exists_writes, ?_⟩,
    fun line c => isSpelled_of_ofLine⟩
  rintro ⟨line, written⟩
  exact isSpelled_of_ofLine (ofLine_of_writes written)

/-- The short form of a keyword, a register and a type of two words, with tabs and runs of spaces
between the words and around the line. -/
theorem written_lines_read_back_spread :
    let shown := print (.register .rdi) "kotlin.collections.Map<K, V>"
    let line := " \tp  $rdi\tkotlin.collections.Map<K, \t V> "
    shown.Writes line ∧ ofLine line = some shown ∧ shown.IsSpelled := by
  intro shown line
  have arguments : shown.Arguments ["$rdi", "kotlin.collections.Map<K,", "V>"] :=
    .print (l := .register .rdi) (List.cons_ne_nil "kotlin.collections.Map<K," ["V>"])
  have body : Text.IsLine (["p", "$rdi", "kotlin.collections.Map<K,", "V>"].map String.toList)
      "p  $rdi\tkotlin.collections.Map<K, \t V> ".toList :=
    .more (g := "  ".toList) (by decide) (by decide) (by decide) <|
    .more (g := "\t".toList) (by decide) (by decide) (by decide) <|
    .more (g := " \t ".toList) (by decide) (by decide) (by decide) <|
    .last (g := " ".toList) (by decide) (by decide)
  have written : shown.Writes line :=
    ⟨"p", _, " \t".toList, _, by decide, arguments, by decide, body, by decide⟩
  have read := written_lines_read_back.1 shown line written
  exact ⟨written, read, written_lines_read_back.2.2 line shown read⟩

end HeapScope.Command
