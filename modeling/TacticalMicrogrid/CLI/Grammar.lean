import TacticalMicrogrid.CLI.CLIClient
import TacticalMicrogrid.Library.Search
import Mathlib.Data.List.TakeWhile

/-!
# The grammar of a command line

`CLIClient::parse` of `cli/CLIClient.cpp` as it is written: searches that give a position or `npos`,
and calls of `std::string::substr`, which throws if the position is behind the end. The last call
gets the result of a search without a check.

A line is blank, or a word with blanks around it, or a word and an argument with blanks around and
between them; every text is a line in one way only, and `parse` gives the word and the argument.

## Main definitions

* `findFirstNotOf`, `findFirstOf`, `findLastNotOf`, `substr`: members of `std::string`.
* `CLIClient.parseByIndex`: `CLIClient::parse`.
* `IsBlank`, `IsWord`, `IsArgument`, `CommandLine`: the grammar.

## Main results

* `CommandLine.parseByIndex_text`: the result for every line of the grammar.
* `CommandLine.exists_text_eq`, `CommandLine.text_injective`: every text is one line.
* `CLIClient.parseByIndex_iff`: what is accepted, and with which result.
* `CLIClient.parseByIndex_eq`: the same result as `CLIClient.parse`.
-/

namespace TacticalMicrogrid

/-! ### Strings -/

/-- What `std::string::substr` throws. -/
inductive StringError
  | outOfRange
deriving DecidableEq

/-- `std::string::find_first_not_of`, where `none` is `npos`. -/
def findFirstNotOf (s set : String) (pos : ℕ) : Option ℕ :=
  Search.findFirst (· ∉ set.toList) s.toList pos

/-- `std::string::find_first_of`. -/
def findFirstOf (s set : String) (pos : ℕ) : Option ℕ :=
  Search.findFirst (· ∈ set.toList) s.toList pos

/-- `std::string::find_last_not_of`. -/
def findLastNotOf (s set : String) : Option ℕ :=
  Search.findLast (· ∉ set.toList) s.toList

/-- `std::string::substr`. The position `npos` is behind the end of every string, the count `npos`
reaches to the end. -/
def substr (s : String) (pos count : Option ℕ) : Except StringError String :=
  match pos with
  | none => throw .outOfRange
  | some pos =>
    if s.length < pos then throw .outOfRange
    else return String.ofList ((s.toList.drop pos).take (count.getD s.length))

namespace CLIClient

/-- The `whitespace` of `CLIClient::parse`. -/
def whitespace : String := " \t"

/-- What `CLIClient::parse` does with the trimmed input. -/
def parseTrimed (trimedInput : String) : Except StringError (String × Option String) :=
  match findFirstOf trimedInput whitespace 0 with
  | none => return (trimedInput, none)
  | some delim => do
    let op ← substr trimedInput (some 0) (some delim)
    let argBegin := findFirstNotOf trimedInput whitespace (delim + 1)
    let arg ← substr trimedInput argBegin none
    return (op, some arg)

/-- `CLIClient::parse`, search by search. -/
def parseByIndex (input : String) : Except StringError (String × Option String) :=
  match findFirstNotOf input whitespace 0 with
  | none => return ("", none)
  | some first => do
    let last := findLastNotOf input whitespace
    let trimedInput ← substr input (some first) (last.map (· - first + 1))
    parseTrimed trimedInput

end CLIClient

/-! ### The grammar -/

/-- A run of blanks and tabulators, possibly empty. -/
def IsBlank (w : String) : Prop := ∀ c ∈ w.toList, CLIClient.isWhitespace c = true

/-- A word: it is not empty and has neither blanks nor tabulators. -/
def IsWord (op : String) : Prop :=
  op ≠ "" ∧ ∀ c ∈ op.toList, CLIClient.isWhitespace c = false

/-- A text that begins and ends with a character that is neither blank nor tabulator. -/
def IsArgument (arg : String) : Prop :=
  (∃ c ∈ arg.toList.head?, CLIClient.isWhitespace c = false) ∧
    ∃ c ∈ arg.toList.getLast?, CLIClient.isWhitespace c = false

/-- A line of the grammar. -/
inductive CommandLine
  | blank (w : {w // IsBlank w})
  | word (w₁ : {w // IsBlank w}) (op : {op // IsWord op}) (w₃ : {w // IsBlank w})
  | withArg (w₁ : {w // IsBlank w}) (op : {op // IsWord op}) (w₂ : {w // IsBlank w ∧ w ≠ ""})
      (arg : {arg // IsArgument arg}) (w₃ : {w // IsBlank w})

namespace CommandLine

/-- The text of a line. -/
def text : CommandLine → String
  | .blank w => w
  | .word w₁ op w₃ => w₁ ++ op ++ w₃
  | .withArg w₁ op w₂ arg w₃ => w₁ ++ op ++ w₂ ++ arg ++ w₃

/-- The word and the argument of a line. -/
def opArg : CommandLine → String × Option String
  | .blank _ => ("", none)
  | .word _ op _ => (op, none)
  | .withArg _ op _ arg _ => (op, some arg.1)

end CommandLine

/-! ### Searches in a line -/

section Searches

variable {s w w₁ w₂ w₃ op arg body : String}

theorem notMem_whitespace (c : Char) :
    decide (c ∉ CLIClient.whitespace.toList) = !CLIClient.isWhitespace c := by
  simp [CLIClient.whitespace, CLIClient.isWhitespace, not_or]

theorem mem_whitespace (c : Char) :
    decide (c ∈ CLIClient.whitespace.toList) = CLIClient.isWhitespace c := by
  simp [CLIClient.whitespace, CLIClient.isWhitespace]

theorem findFirstNotOf_whitespace (pos : ℕ) : findFirstNotOf s CLIClient.whitespace pos =
    Search.findFirst (!CLIClient.isWhitespace ·) s.toList pos := by
  simp only [findFirstNotOf, notMem_whitespace]

theorem findFirstOf_whitespace (pos : ℕ) : findFirstOf s CLIClient.whitespace pos =
    Search.findFirst CLIClient.isWhitespace s.toList pos := by
  simp only [findFirstOf, mem_whitespace]

theorem findLastNotOf_whitespace : findLastNotOf s CLIClient.whitespace =
    Search.findLast (!CLIClient.isWhitespace ·) s.toList := by
  simp only [findLastNotOf, notMem_whitespace]

theorem IsBlank.not (h : IsBlank w) : ∀ c ∈ w.toList, (!CLIClient.isWhitespace c) = false :=
  fun c hc => by rw [h c hc, Bool.not_true]

theorem isArgument_iff :
    IsArgument arg ↔ Search.Trimmed (!CLIClient.isWhitespace ·) arg.toList := by
  simp only [IsArgument, Search.Trimmed, Bool.not_eq_true']

/-- The text in the middle of a string. -/
theorem substr_append (pre mid post : String) :
    substr (pre ++ mid ++ post) (some pre.length) (some mid.length) = .ok mid := by
  have hle : ¬(pre ++ mid ++ post).length < pre.length := by
    rw [String.length_append, String.length_append]
    omega
  rw [substr, if_neg hle, Option.getD_some, String.toList_append, String.toList_append,
    List.append_assoc, ← String.length_toList, ← String.length_toList, List.drop_left,
    List.take_left, String.ofList_toList]
  rfl

/-- The text at the end of a string. -/
theorem substr_append_right (pre post : String) :
    substr (pre ++ post) (some pre.length) none = .ok post := by
  have hle : ¬(pre ++ post).length < pre.length := by
    rw [String.length_append]
    omega
  rw [substr, if_neg hle, Option.getD_none, String.toList_append, ← String.length_toList (s := pre),
    List.drop_left, List.take_of_length_le, String.ofList_toList]
  · rfl
  · rw [String.length_append, String.length_toList]
    omega

theorem IsWord.isArgument (h : IsWord op) : IsArgument op := by
  obtain ⟨hne, hword⟩ := h
  have hnil : op.toList ≠ [] := fun h => hne (String.toList_eq_nil_iff.mp h)
  refine ⟨⟨_, List.head?_eq_some_head hnil, hword _ (List.head_mem hnil)⟩,
    _, List.getLast?_eq_some_getLast hnil, hword _ (List.getLast_mem hnil)⟩

/-- A word and an argument with a text between them begin and end as an argument does. -/
theorem IsArgument.append (hop : IsArgument op) (harg : IsArgument arg) (w : String) :
    IsArgument (op ++ w ++ arg) := by
  obtain ⟨⟨c, hc, hcw⟩, -⟩ := hop
  obtain ⟨-, d, hd, hdw⟩ := harg
  refine ⟨⟨c, ?_, hcw⟩, d, ?_, hdw⟩
  · rw [String.toList_append, String.toList_append, List.append_assoc, List.head?_append, hc,
      Option.some_or]
    exact rfl
  · rw [String.toList_append, List.getLast?_append, hd, Option.some_or]
    exact rfl

/-- `parse` trims its input. -/
theorem parseByIndex_append (hw₁ : IsBlank w₁) (hbody : IsArgument body) (hw₃ : IsBlank w₃) :
    CLIClient.parseByIndex (w₁ ++ body ++ w₃) = CLIClient.parseTrimed body := by
  have htrimmed := isArgument_iff.mp hbody
  have hfirst : findFirstNotOf (w₁ ++ body ++ w₃) CLIClient.whitespace 0 = some w₁.length := by
    rw [findFirstNotOf_whitespace, String.toList_append, String.toList_append,
      htrimmed.findFirst_eq hw₁.not, String.length_toList]
  have hlast : findLastNotOf (w₁ ++ body ++ w₃) CLIClient.whitespace =
      some (w₁.length + body.length - 1) := by
    rw [findLastNotOf_whitespace, String.toList_append, String.toList_append,
      htrimmed.findLast_eq hw₃.not, String.length_toList, String.length_toList]
  have hcount : w₁.length + body.length - 1 - w₁.length + 1 = body.length := by
    obtain ⟨a, l, hbody, -⟩ := htrimmed.exists_eq_cons
    rw [← String.length_toList (s := body), hbody, List.length_cons]
    omega
  rw [CLIClient.parseByIndex, hfirst, hlast]
  simp only [Option.map_some, hcount, substr_append]
  rfl

/-- A word has no argument. -/
theorem parseTrimed_word (hop : IsWord op) : CLIClient.parseTrimed op = .ok (op, none) := by
  have hnone : findFirstOf op CLIClient.whitespace 0 = none := by
    rw [findFirstOf_whitespace, Search.findFirst_eq_none_iff, List.drop_zero]
    exact hop.2
  rw [CLIClient.parseTrimed, hnone]
  rfl

/-- The argument follows the blanks behind the word. -/
theorem parseTrimed_withArg (hop : IsWord op) (hw₂ : IsBlank w₂) (hne : w₂ ≠ "")
    (harg : IsArgument arg) : CLIClient.parseTrimed (op ++ w₂ ++ arg) = .ok (op, some arg) := by
  obtain ⟨c, gap, hgap⟩ : ∃ c gap, w₂.toList = c :: gap :=
    List.exists_cons_of_ne_nil fun h => hne (String.toList_eq_nil_iff.mp h)
  obtain ⟨a, l, hl, ha⟩ := (isArgument_iff.mp harg).exists_eq_cons
  have hdelim : findFirstOf (op ++ w₂ ++ arg) CLIClient.whitespace 0 = some op.length := by
    have hdrop : (op ++ w₂ ++ arg).toList.drop 0 = op.toList ++ c :: (gap ++ arg.toList) := by
      simp [hgap]
    have hc : CLIClient.isWhitespace c = true := hw₂ c (hgap ▸ List.mem_cons_self)
    rw [findFirstOf_whitespace, Search.findFirst_of_drop_eq hdrop hop.2 hc, Nat.zero_add,
      String.length_toList]
  have hdrop : (op ++ w₂ ++ arg).toList.drop (op.length + 1) = gap ++ a :: l := by
    rw [← String.length_toList]
    simp [hgap, hl, List.drop_append]
  have hargBegin : findFirstNotOf (op ++ w₂ ++ arg) CLIClient.whitespace (op.length + 1) =
      some (op ++ w₂).length := by
    have hgapBlank : ∀ c ∈ gap, (!CLIClient.isWhitespace c) = false :=
      fun c hc => hw₂.not c (hgap ▸ List.mem_cons_of_mem _ hc)
    rw [findFirstNotOf_whitespace, Search.findFirst_of_drop_eq hdrop hgapBlank ha,
      String.length_append, ← String.length_toList (s := w₂), hgap, List.length_cons]
    congr 1
    omega
  have hop' : substr (op ++ w₂ ++ arg) (some 0) (some op.length) = .ok op := by
    have h := substr_append "" op (w₂ ++ arg)
    rwa [String.empty_append, ← String.append_assoc] at h
  rw [CLIClient.parseTrimed, hdelim]
  simp only [hop', hargBegin, substr_append_right]
  rfl

end Searches

/-! ### Lines and texts -/

theorem isBlank_ofList {w : List Char} (hw : ∀ c ∈ w, (!CLIClient.isWhitespace c) = false) :
    IsBlank (String.ofList w) := by
  intro c hc
  rw [String.toList_ofList] at hc
  simpa using hw c hc

/-- A text is blank, or it has blanks on both sides of an argument. -/
theorem isBlank_or_exists (input : String) : IsBlank input ∨
    ∃ w₁ body w₃, input = w₁ ++ body ++ w₃ ∧ IsBlank w₁ ∧ IsArgument body ∧ IsBlank w₃ := by
  rcases Search.exists_trimmed (!CLIClient.isWhitespace ·) input.toList with
    hblank | ⟨w₁, body, w₃, hinput, hw₁, hbody, hw₃⟩
  · have h := isBlank_ofList hblank
    rw [String.ofList_toList] at h
    exact Or.inl h
  · refine Or.inr ⟨.ofList w₁, .ofList body, .ofList w₃, ?_, isBlank_ofList hw₁, ?_,
      isBlank_ofList hw₃⟩
    · rw [← String.toList_inj, hinput]
      simp
    · rwa [isArgument_iff, String.toList_ofList]

/-- An argument is a word, or it has a word and an argument with blanks between them. -/
theorem IsArgument.isWord_or_exists {body : String} (h : IsArgument body) : IsWord body ∨
    ∃ op w₂ arg, body = op ++ w₂ ++ arg ∧ IsWord op ∧ (IsBlank w₂ ∧ w₂ ≠ "") ∧
      IsArgument arg := by
  obtain ⟨⟨a, ha, haw⟩, b, hb, hbw⟩ := h
  rcases Search.exists_first CLIClient.isWhitespace body.toList with
    hword | ⟨op, c, rest, hbody, hop, hc⟩
  · refine Or.inl ⟨fun hempty => ?_, hword⟩
    rw [hempty] at ha
    cases ha
  -- The argument begins with the first other character behind the word.
  rcases Search.exists_first (!CLIClient.isWhitespace ·) (c :: rest) with
    hblank | ⟨w₂, d, arg, hrest, hw₂, hd⟩
  · have hb' : b ∈ (c :: rest).getLast? := by
      rwa [hbody, List.getLast?_append_of_ne_nil _ (List.cons_ne_nil c rest)] at hb
    have hfalse := hblank b (List.mem_of_getLast? hb')
    rw [hbw] at hfalse
    cases hfalse
  · refine Or.inr ⟨.ofList op, .ofList w₂, .ofList (d :: arg), ?_, ⟨?_, ?_⟩,
      ⟨isBlank_ofList hw₂, ?_⟩, ?_⟩
    · rw [← String.toList_inj, hbody, hrest]
      simp
    · rw [Ne, String.ofList_eq_empty_iff]
      rintro rfl
      rw [hbody] at ha
      obtain rfl := Option.some.inj ha
      exact Bool.false_ne_true (haw.symm.trans hc)
    · rwa [String.toList_ofList]
    · rw [Ne, String.ofList_eq_empty_iff]
      rintro rfl
      obtain ⟨rfl, -⟩ := List.cons.inj hrest
      rw [hc] at hd
      cases hd
    · rw [hbody, hrest, List.getLast?_append_of_ne_nil _ (by simp),
        List.getLast?_append_of_ne_nil _ (by simp)] at hb
      rw [IsArgument, String.toList_ofList]
      exact ⟨⟨d, rfl, by simpa using hd⟩, b, hb, hbw⟩

/-- The blanks around an argument are determined. -/
theorem append_unique {w₁ w₃ w₁' w₃' body body' : String}
    (h : w₁ ++ body ++ w₃ = w₁' ++ body' ++ w₃') (hw₁ : IsBlank w₁) (hbody : IsArgument body)
    (hw₃ : IsBlank w₃) (hw₁' : IsBlank w₁') (hbody' : IsArgument body') (hw₃' : IsBlank w₃') :
    w₁ = w₁' ∧ body = body' ∧ w₃ = w₃' := by
  have hlist := congrArg String.toList h
  simp only [String.toList_append] at hlist
  obtain ⟨h₁, h₂, h₃⟩ := Search.trimmed_unique hlist hw₁.not (isArgument_iff.mp hbody) hw₃.not
    hw₁'.not (isArgument_iff.mp hbody') hw₃'.not
  exact ⟨String.toList_inj.mp h₁, String.toList_inj.mp h₂, String.toList_inj.mp h₃⟩

namespace CommandLine

/-- The text of a line with an argument, as blanks around its trimmed part. -/
theorem text_withArg (w₁ : {w // IsBlank w}) (op : {op // IsWord op})
    (w₂ : {w // IsBlank w ∧ w ≠ ""}) (arg : {arg // IsArgument arg}) (w₃ : {w // IsBlank w}) :
    (withArg w₁ op w₂ arg w₃).text = w₁.1 ++ (op.1 ++ w₂.1 ++ arg.1) ++ w₃.1 := by
  simp only [text, String.append_assoc]

/-- `parse` gives the word and the argument of every line. -/
theorem parseByIndex_text (l : CommandLine) : CLIClient.parseByIndex l.text = .ok l.opArg := by
  cases l with
  | blank w =>
    have hnone : findFirstNotOf w.1 CLIClient.whitespace 0 = none := by
      rw [findFirstNotOf_whitespace, Search.findFirst_eq_none_iff, List.drop_zero]
      exact w.2.not
    rw [text, CLIClient.parseByIndex, hnone]
    rfl
  | word w₁ op w₃ =>
    exact (parseByIndex_append w₁.2 op.2.isArgument w₃.2).trans (parseTrimed_word op.2)
  | withArg w₁ op w₂ arg w₃ =>
    have hbody : IsArgument (op.1 ++ w₂.1 ++ arg.1) := op.2.isArgument.append arg.2 w₂.1
    rw [text_withArg, parseByIndex_append w₁.2 hbody w₃.2]
    exact parseTrimed_withArg op.2 w₂.2.1 w₂.2.2 arg.2

/-- Every text is that of a line. -/
theorem exists_text_eq (input : String) : ∃ l : CommandLine, l.text = input := by
  rcases isBlank_or_exists input with hblank | ⟨w₁, body, w₃, rfl, hw₁, hbody, hw₃⟩
  · exact ⟨.blank ⟨input, hblank⟩, rfl⟩
  · rcases hbody.isWord_or_exists with hword | ⟨op, w₂, arg, rfl, hop, hw₂, harg⟩
    · exact ⟨.word ⟨w₁, hw₁⟩ ⟨body, hword⟩ ⟨w₃, hw₃⟩, rfl⟩
    · refine ⟨.withArg ⟨w₁, hw₁⟩ ⟨op, hop⟩ ⟨w₂, hw₂⟩ ⟨arg, harg⟩ ⟨w₃, hw₃⟩, ?_⟩
      exact text_withArg ..

/-- No text is that of two lines. -/
theorem text_injective : Function.Injective text := by
  intro l l' h
  have hparse := l.parseByIndex_text
  rw [h, l'.parseByIndex_text] at hparse
  have hopArg : l.opArg = l'.opArg := (Except.ok.inj hparse).symm
  cases l with
  | blank w =>
    cases l' with
    | blank w' => exact congrArg blank (Subtype.ext h)
    | word w₁ op w₃ => exact absurd (congrArg Prod.fst hopArg).symm op.2.1
    | withArg w₁ op w₂ arg w₃ => cases congrArg Prod.snd hopArg
  | word w₁ op w₃ =>
    cases l' with
    | blank w' => exact absurd (congrArg Prod.fst hopArg) op.2.1
    | word w₁' op' w₃' =>
      obtain ⟨h₁, h₂, h₃⟩ :=
        append_unique h w₁.2 op.2.isArgument w₃.2 w₁'.2 op'.2.isArgument w₃'.2
      rw [Subtype.ext h₁, Subtype.ext h₂, Subtype.ext h₃]
    | withArg w₁' op' w₂' arg' w₃' => cases congrArg Prod.snd hopArg
  | withArg w₁ op w₂ arg w₃ =>
    cases l' with
    | blank w' => cases congrArg Prod.snd hopArg
    | word w₁' op' w₃' => cases congrArg Prod.snd hopArg
    | withArg w₁' op' w₂' arg' w₃' =>
      obtain rfl : op = op' := Subtype.ext (congrArg Prod.fst hopArg)
      obtain rfl : arg = arg' := Subtype.ext (Option.some.inj (congrArg Prod.snd hopArg))
      have hbody : ∀ w : String, IsArgument (op.1 ++ w ++ arg.1) := op.2.isArgument.append arg.2
      rw [text_withArg, text_withArg] at h
      obtain ⟨h₁, h₂, h₃⟩ := append_unique h w₁.2 (hbody w₂.1) w₃.2 w₁'.2 (hbody w₂'.1) w₃'.2
      have hgap : w₂.1 = w₂'.1 :=
        (String.append_right_inj op.1).mp ((String.append_left_inj arg.1).mp h₂)
      rw [Subtype.ext h₁, Subtype.ext hgap, Subtype.ext h₃]

end CommandLine

/-! ### What is accepted -/

namespace CLIClient

/-- `parse` returns the word and the argument of the line of its input. -/
theorem parseByIndex_eq_ok_iff {input : String} {r : String × Option String} :
    parseByIndex input = .ok r ↔ ∃ l : CommandLine, l.text = input ∧ l.opArg = r := by
  obtain ⟨l, rfl⟩ := CommandLine.exists_text_eq input
  rw [l.parseByIndex_text, Except.ok.injEq]
  constructor
  · exact fun h => ⟨l, rfl, h⟩
  · rintro ⟨l', htext, rfl⟩
    rw [CommandLine.text_injective htext]

/-- The trimmed input of `parse`. -/
theorem trimmed_append {w₁ body w₃ : String} (hw₁ : IsBlank w₁) (hbody : IsArgument body)
    (hw₃ : IsBlank w₃) : (((w₁ ++ body ++ w₃).toList.dropWhile isWhitespace).reverse.dropWhile
      isWhitespace).reverse = body.toList := by
  have htrimmed := isArgument_iff.mp hbody
  obtain ⟨a, l, hcons, ha⟩ := htrimmed.exists_eq_cons
  obtain ⟨m, b, hconcat, hb⟩ := htrimmed.exists_eq_concat
  have hleft : (w₁ ++ body ++ w₃).toList.dropWhile isWhitespace = body.toList ++ w₃.toList := by
    rw [String.toList_append, String.toList_append, List.append_assoc,
      List.dropWhile_append_of_pos hw₁, hcons, List.cons_append,
      List.dropWhile_cons_of_neg (by simpa using ha)]
  have hright : (body.toList ++ w₃.toList).reverse.dropWhile isWhitespace =
      body.toList.reverse := by
    rw [List.reverse_append,
      List.dropWhile_append_of_pos fun c hc => hw₃ c (List.mem_reverse.mp hc),
      hconcat, List.reverse_append, List.reverse_singleton, List.singleton_append,
      List.dropWhile_cons_of_neg (by simpa using hb)]
  rw [hleft, hright, List.reverse_reverse]

/-- The result of `parse` by its words, for the input of a line. -/
theorem parse_text (l : CommandLine) : parse l.text = l.opArg := by
  cases l with
  | blank w =>
    have hnil : w.1.toList.dropWhile isWhitespace = [] := List.dropWhile_eq_nil_iff.mpr w.2
    simp only [CommandLine.text, parse, hnil]
    rfl
  | word w₁ op w₃ =>
    have hword : ∀ c ∈ op.1.toList, (!isWhitespace c) = true :=
      fun c hc => by rw [op.2.2 c hc, Bool.not_false]
    rw [CommandLine.text, parse, trimmed_append w₁.2 op.2.isArgument w₃.2]
    simp only [List.takeWhile_eq_self_iff.mpr hword, List.dropWhile_eq_nil_iff.mpr hword]
    simp [CommandLine.opArg]
  | withArg w₁ op w₂ arg w₃ =>
    have hbody : IsArgument (op.1 ++ w₂.1 ++ arg.1) := op.2.isArgument.append arg.2 w₂.1
    have hword : ∀ c ∈ op.1.toList, (!isWhitespace c) = true :=
      fun c hc => by rw [op.2.2 c hc, Bool.not_false]
    obtain ⟨c, gap, hgap⟩ : ∃ c gap, w₂.1.toList = c :: gap :=
      List.exists_cons_of_ne_nil fun h => w₂.2.2 (String.toList_eq_nil_iff.mp h)
    have hc : ¬(!isWhitespace c) = true := by
      rw [w₂.2.1 c (hgap ▸ List.mem_cons_self)]
      decide
    have htake : (c :: gap ++ arg.1.toList).takeWhile (!isWhitespace ·) = [] :=
      List.takeWhile_cons_of_neg hc
    have hkeep : (c :: gap ++ arg.1.toList).dropWhile (!isWhitespace ·) =
        c :: gap ++ arg.1.toList := List.dropWhile_cons_of_neg hc
    obtain ⟨a, l, harg, ha⟩ := (isArgument_iff.mp arg.2).exists_eq_cons
    have hrest : (op.1 ++ w₂.1 ++ arg.1).toList = op.1.toList ++ (c :: gap ++ arg.1.toList) := by
      rw [String.toList_append, String.toList_append, List.append_assoc, hgap]
    have hdrop : (c :: gap ++ arg.1.toList).dropWhile isWhitespace = arg.1.toList := by
      rw [← hgap, List.dropWhile_append_of_pos w₂.2.1, harg,
        List.dropWhile_cons_of_neg (by simpa using ha)]
    rw [CommandLine.text_withArg, parse, trimmed_append w₁.2 hbody w₃.2, hrest,
      List.takeWhile_append_of_pos hword, List.dropWhile_append_of_pos hword, htake, hkeep]
    simp only [hdrop, List.append_nil, String.ofList_toList, if_neg (harg ▸ List.cons_ne_nil a l)]
    rfl

/-- `parse` never throws, and returns the first word and the rest of the line. -/
theorem parseByIndex_eq (input : String) : parseByIndex input = .ok (parse input) := by
  obtain ⟨l, rfl⟩ := CommandLine.exists_text_eq input
  rw [l.parseByIndex_text, parse_text]

/-- **The grammar of `parse`.** For every input: it returns no word exactly for blanks, a word alone
exactly for a word with blanks around it, and a word and an argument exactly for these two with
blanks between and around them; the input has one decomposition only, and no call of `substr` is out
of range. -/
theorem parseByIndex_iff (input : String) :
    (parseByIndex input = .ok ("", none) ↔ IsBlank input) ∧
    (∀ op, parseByIndex input = .ok (op, none) ∧ op ≠ "" ↔
      ∃ w₁ w₃, input = w₁ ++ op ++ w₃ ∧ IsBlank w₁ ∧ IsWord op ∧ IsBlank w₃) ∧
    (∀ op arg, parseByIndex input = .ok (op, some arg) ↔
      ∃ w₁ w₂ w₃, input = w₁ ++ op ++ w₂ ++ arg ++ w₃ ∧ IsBlank w₁ ∧ IsWord op ∧
        (IsBlank w₂ ∧ w₂ ≠ "") ∧ IsArgument arg ∧ IsBlank w₃) ∧
    (∃! l : CommandLine, l.text = input) ∧ ∃ r, parseByIndex input = .ok r := by
  refine ⟨?_, fun op => ?_, fun op arg => ?_, ?_, ?_⟩
  · rw [parseByIndex_eq_ok_iff]
    constructor
    · rintro ⟨l, rfl, hopArg⟩
      cases l with
      | blank w => exact w.2
      | word w₁ op w₃ => exact absurd (congrArg Prod.fst hopArg) op.2.1
      | withArg w₁ op w₂ arg w₃ => cases congrArg Prod.snd hopArg
    · exact fun h => ⟨.blank ⟨input, h⟩, rfl, rfl⟩
  · rw [parseByIndex_eq_ok_iff]
    constructor
    · rintro ⟨⟨l, rfl, hopArg⟩, hne⟩
      cases l with
      | blank w => exact absurd (congrArg Prod.fst hopArg).symm hne
      | word w₁ op' w₃ =>
        obtain rfl : op'.1 = op := congrArg Prod.fst hopArg
        exact ⟨w₁.1, w₃.1, rfl, w₁.2, op'.2, w₃.2⟩
      | withArg w₁ op w₂ arg w₃ => cases congrArg Prod.snd hopArg
    · rintro ⟨w₁, w₃, rfl, hw₁, hop, hw₃⟩
      exact ⟨⟨.word ⟨w₁, hw₁⟩ ⟨op, hop⟩ ⟨w₃, hw₃⟩, rfl, rfl⟩, hop.1⟩
  · rw [parseByIndex_eq_ok_iff]
    constructor
    · rintro ⟨l, rfl, hopArg⟩
      cases l with
      | blank w => cases congrArg Prod.snd hopArg
      | word w₁ op w₃ => cases congrArg Prod.snd hopArg
      | withArg w₁ op' w₂ arg' w₃ =>
        obtain rfl : op'.1 = op := congrArg Prod.fst hopArg
        obtain rfl : arg'.1 = arg := Option.some.inj (congrArg Prod.snd hopArg)
        exact ⟨w₁.1, w₂.1, w₃.1, rfl, w₁.2, op'.2, w₂.2, arg'.2, w₃.2⟩
    · rintro ⟨w₁, w₂, w₃, rfl, hw₁, hop, hw₂, harg, hw₃⟩
      exact ⟨.withArg ⟨w₁, hw₁⟩ ⟨op, hop⟩ ⟨w₂, hw₂⟩ ⟨arg, harg⟩ ⟨w₃, hw₃⟩, rfl, rfl⟩
  · obtain ⟨l, hl⟩ := CommandLine.exists_text_eq input
    exact ⟨l, hl, fun l' hl' => CommandLine.text_injective (hl'.trans hl.symm)⟩
  · obtain ⟨l, rfl⟩ := CommandLine.exists_text_eq input
    exact ⟨_, l.parseByIndex_text⟩

end CLIClient

end TacticalMicrogrid
