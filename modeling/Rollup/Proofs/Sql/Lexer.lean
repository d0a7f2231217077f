import Rollup.Sql.Printer
import Rollup.Proofs.Number.Form
import Rollup.Proofs.Number.Reading

/-!
# Tokens of queries

The text of a query as a reader of SQL sees it: words and numbers, names between double quotes, literals
between single quotes, and symbols. Inside quotes every character stands for itself, save that a quote
mark is doubled; outside, only what is listed here may stand, and two minus signs would begin a comment.
The text of an expression is read as its tokens, whatever its names and literals hold
(`Expr.reads_pieces`), and so is a query (`Select.lex_compact`).
-/

namespace Rollup.Sql

inductive Token
  | word (s : String)
  | name (s : String)
  | literal (s : String)
  | symbol (c : Char)
  deriving DecidableEq, Repr

namespace Lexer

/-- Where in a text a lexer is. -/
inductive Mode
  /-- Outside quotes, behind a word that may go on. -/
  | outside (word : List Char)
  /-- Behind a minus sign. -/
  | minus
  | inside (quote : Char) (read : List Char)
  /-- Behind a quote mark inside quotes, which ends them unless another one follows. -/
  | closing (quote : Char) (read : List Char)

def isWordChar (c : Char) : Bool := c.isAlphanum || c == '_' || c == '.'

def isSymbol (c : Char) : Bool := ['(', ')', ',', '=', '<', '>'].contains c

/-- Whether a word goes on: a number may have a sign behind an exponent mark. -/
def goesOn (word : List Char) (c : Char) : Bool :=
  isWordChar c || ((c == '-' || c == '+') && word.head?.any Char.isDigit &&
    word.getLast?.any fun d => d == 'e' || d == 'E')

/-- The token of a text between quotes. -/
def quoted (quote : Char) (cs : List Char) : Token :=
  if quote = '"' then .name (String.ofList cs) else .literal (String.ofList cs)

/-- Ends a word, behind the tokens that were read, the last one first. -/
def endWord (word : List Char) (tokens : List Token) : List Token :=
  if word.isEmpty then tokens else .word (String.ofList word) :: tokens

/-- Begins what a character begins. -/
def start (c : Char) (tokens : List Token) : Option (Mode × List Token) :=
  if isWordChar c then some (.outside [c], tokens)
  else if c.isWhitespace then some (.outside [], tokens)
  else if c = '"' ∨ c = '\'' then some (.inside c [], tokens)
  else if c = '-' then some (.minus, .symbol '-' :: tokens)
  else if isSymbol c then some (.outside [], .symbol c :: tokens)
  else none

def step (mode : Mode) (c : Char) (tokens : List Token) : Option (Mode × List Token) :=
  match mode with
  | .outside word =>
    if goesOn word c then some (.outside (word ++ [c]), tokens) else start c (endWord word tokens)
  | .minus => if c = '-' then none else start c tokens
  | .inside quote read => some (if c = quote then .closing quote read else .inside quote (read ++ [c]), tokens)
  | .closing quote read =>
    if c = quote then some (.inside quote (read ++ [quote]), tokens)
    else start c (quoted quote read :: tokens)

/-- The tokens at the end of a text, the last one first. Quotes must not be open there. -/
def finish : Mode → List Token → Option (List Token)
  | .outside word, tokens => some (endWord word tokens)
  | .minus, tokens => some tokens
  | .inside .., _ => none
  | .closing quote read, tokens => some (quoted quote read :: tokens)

def run (mode : Mode) (tokens : List Token) : List Char → Option (List Token)
  | [] => finish mode tokens
  | c :: cs => (step mode c tokens).bind fun (mode, tokens) => run mode tokens cs

end Lexer

/-- The tokens of a text. -/
def lex (s : String) : Option (List Token) := (Lexer.run (.outside []) [] s.toList).map List.reverse

namespace Lexer
variable {tokens : List Token} {quote : Char} {read cs rest : List Char}

theorem run_inside (quote : Char) (cs read rest : List Char) (tokens : List Token) :
    run (.inside quote read) tokens (Text.Quoted.encode quote cs ++ quote :: rest) =
      run (.closing quote (read ++ cs)) tokens rest := by
  induction cs generalizing read with
  | nil => simp [Text.Quoted.encode, run, step]
  | cons c cs ih =>
    by_cases hc : c = quote
    · subst hc
      simp [Text.Quoted.encode, run, step, ih]
    · simp [Text.Quoted.encode, run, step, hc, ih]

theorem step_outside_nil (c : Char) (tokens : List Token) :
    step (.outside []) c tokens = start c tokens := by
  have hgoesOn : goesOn [] c = isWordChar c := by simp [goesOn]
  show (if goesOn [] c then some (.outside ([] ++ [c]), tokens) else start c (endWord [] tokens)) = _
  rw [hgoesOn]
  split_ifs with hword
  · simp [start, hword]
  · rfl

/-- Whether what stands before a text has to end there, if it is no text between quotes. -/
def Breaks (cs : List Char) : Prop := ∀ c ∈ cs.head?, c = ' ' ∨ c = ')' ∨ c = ','

theorem Breaks.append {cs rest : List Char} (hcs : Breaks cs) (hrest : Breaks rest) :
    Breaks (cs ++ rest) := by
  cases cs with
  | nil => exact hrest
  | cons c cs => exact hcs

theorem run_outside_of_breaks (h : Breaks rest) (word : List Char) (tokens : List Token) :
    run (.outside word) tokens rest = run (.outside []) (endWord word tokens) rest := by
  cases rest with
  | nil => rfl
  | cons c rest =>
    have hends : goesOn word c = false := by
      rcases h c rfl with rfl | rfl | rfl <;> simp [goesOn, isWordChar]
    have hstep : step (.outside word) c tokens = start c (endWord word tokens) := by
      simp [step, hends]
    rw [run, run, hstep, step_outside_nil]

theorem run_closing_of_breaks (h : Breaks rest) (hquote : quote = '"' ∨ quote = '\'')
    (read : List Char) (tokens : List Token) :
    run (.closing quote read) tokens rest = run (.outside []) (quoted quote read :: tokens) rest := by
  cases rest with
  | nil => rfl
  | cons c rest =>
    have hne : c ≠ quote := by
      rcases h c rfl with rfl | rfl | rfl <;> rcases hquote with rfl | rfl <;> decide
    have hstep : step (.closing quote read) c tokens = start c (quoted quote read :: tokens) := by
      simp [step, hne]
    rw [run, run, hstep, step_outside_nil]

end Lexer

open Lexer

/-- A text is read as tokens wherever it stands, as long as what follows it breaks words. -/
def Reads (cs : List Char) (ts : List Token) : Prop :=
  ∀ tokens rest, Breaks rest →
    run (.outside []) tokens (cs ++ rest) = run (.outside []) (ts.reverse ++ tokens) rest

/-- A text that is read as tokens whatever follows it. -/
def Passes (cs : List Char) (ts : List Token) : Prop :=
  ∀ tokens rest, run (.outside []) tokens (cs ++ rest) = run (.outside []) (ts.reverse ++ tokens) rest

variable {c : Char} {a b cs : List Char} {ta tb ts : List Token}

theorem Passes.reads (h : Passes cs ts) : Reads cs ts := fun tokens rest _ => h tokens rest

theorem Passes.append (ha : Passes a ta) (hb : Reads b tb) : Reads (a ++ b) (ta ++ tb) := by
  intro tokens rest hrest
  rw [List.append_assoc, ha, hb _ _ hrest, List.reverse_append, List.append_assoc]

theorem Reads.append (ha : Reads a ta) (hb : Reads b tb) (hbreaks : Breaks b) :
    Reads (a ++ b) (ta ++ tb) := by
  intro tokens rest hrest
  rw [List.append_assoc, ha _ _ (hbreaks.append hrest), hb _ _ hrest, List.reverse_append,
    List.append_assoc]

theorem reads_enclose {quote : Char} (hquote : quote = '"' ∨ quote = '\'') (cs : List Char) :
    Reads (Text.Quoted.enclose quote cs) [quoted quote cs] := by
  intro tokens rest hrest
  have hopen : step (.outside []) quote tokens = some (.inside quote [], tokens) := by
    rcases hquote with rfl | rfl <;> rfl
  have happend : Text.Quoted.enclose quote cs ++ rest =
      quote :: (Text.Quoted.encode quote cs ++ quote :: rest) := by
    simp [Text.Quoted.enclose]
  rw [happend, run, hopen, Option.bind_some]
  dsimp only
  rw [run_inside, run_closing_of_breaks hrest hquote]
  rfl

theorem lex_eq {s : String} (h : Reads s.toList ts) : lex s = some ts := by
  have hrun := h [] [] (by simp [Breaks])
  rw [List.append_nil, List.append_nil] at hrun
  unfold lex
  rw [hrun]
  simp [run, finish, endWord]

/-! ## Numbers -/

open Numeral

theorem isWordChar_of_isDigit {c : Char} (h : c.isDigit) : isWordChar c := by
  simp [isWordChar, Char.isAlphanum, h]

theorem Lexer.run_wordChars (h : ∀ c ∈ cs, isWordChar c) (word : List Char) (tokens : List Token)
    (rest : List Char) :
    run (.outside word) tokens (cs ++ rest) = run (.outside (word ++ cs)) tokens rest := by
  induction cs generalizing word with
  | nil => simp
  | cons c cs ih =>
    have hstep : step (.outside word) c tokens = some (.outside (word ++ [c]), tokens) := by
      simp [step, goesOn, h c List.mem_cons_self]
    rw [List.cons_append, run, hstep, Option.bind_some]
    dsimp only
    rw [ih fun d hd => h d (List.mem_cons_of_mem _ hd), List.append_assoc]
    rfl

theorem isWordChar_of_positional (h : Positional cs) : ∀ c ∈ cs, isWordChar c := by
  intro c hc
  rcases mem_positional h hc with hdigit | rfl
  · exact isWordChar_of_isDigit hdigit
  · decide

theorem Lexer.run_unsigned (h : Unsigned cs) (tokens : List Token) (rest : List Char) :
    run (.outside []) tokens (cs ++ rest) = run (.outside cs) tokens rest := by
  cases h with
  | positional h => exact run_wordChars (isWordChar_of_positional h) [] tokens rest
  | @scientific mantissa exponent h he =>
    rw [List.append_assoc, run_wordChars (isWordChar_of_positional h), List.nil_append]
    match exponent, he with
    | mark :: sign :: digits, ⟨hmark, hsign, hdigits⟩ =>
      have hfirst : step (.outside mantissa) mark tokens =
          some (.outside (mantissa ++ [mark]), tokens) := by
        have hword : isWordChar mark := by rcases hmark with rfl | rfl <;> decide
        simp [step, goesOn, hword]
      have hsecond : step (.outside (mantissa ++ [mark])) sign tokens =
          some (.outside (mantissa ++ [mark] ++ [sign]), tokens) := by
        have hhead : (mantissa ++ [mark]).head?.any Char.isDigit := by
          cases mantissa with
          | nil => cases h
          | cons d more => simpa using h.1
        have hlast : (mantissa ++ [mark]).getLast? = some mark := List.getLast?_concat
        have hgoesOn : goesOn (mantissa ++ [mark]) sign := by
          unfold goesOn
          rw [hhead, hlast]
          rcases hmark with rfl | rfl <;> rcases hsign with rfl | rfl <;> rfl
        simp [step, hgoesOn]
      rw [List.cons_append, List.cons_append, run, hfirst, Option.bind_some]
      dsimp only
      rw [run, hsecond, Option.bind_some]
      dsimp only
      rw [run_wordChars fun c hc => isWordChar_of_isDigit (hdigits c hc)]
      simp

/-- The tokens of the text of a number. -/
def numeralTokens : List Char → List Token
  | '-' :: cs => [.symbol '-', .word (String.ofList cs)]
  | cs => [.word (String.ofList cs)]

theorem numeralTokens_of_unsigned (h : Unsigned cs) :
    numeralTokens cs = [.word (String.ofList cs)] := by
  obtain ⟨d, more, rfl, hd⟩ := h.head_isDigit
  unfold numeralTokens
  split
  · rename_i heq
    rw [(List.cons.inj heq).1] at hd
    cases hd
  · rfl

theorem reads_unsigned (h : Unsigned cs) : Reads cs (numeralTokens cs) := by
  intro tokens rest hrest
  rw [numeralTokens_of_unsigned h, run_unsigned h, run_outside_of_breaks hrest]
  obtain ⟨d, more, rfl, -⟩ := h.head_isDigit
  rfl

theorem reads_minus (h : Unsigned cs) : Reads ('-' :: cs) (numeralTokens ('-' :: cs)) := by
  intro tokens rest hrest
  have hminus : run .minus (.symbol '-' :: tokens) (cs ++ rest) =
      run (.outside []) (.symbol '-' :: tokens) (cs ++ rest) := by
    obtain ⟨d, more, rfl, hd⟩ := h.head_isDigit
    have hne : d ≠ '-' := by
      rintro rfl
      cases hd
    have hstep : step .minus d (.symbol '-' :: tokens) = start d (.symbol '-' :: tokens) := by
      simp [step, hne]
    rw [List.cons_append, run, run, hstep, step_outside_nil]
  have hstart : run (.outside []) tokens ('-' :: cs ++ rest) =
      run .minus (.symbol '-' :: tokens) (cs ++ rest) := rfl
  rw [hstart, hminus, run_unsigned h, run_outside_of_breaks hrest]
  obtain ⟨d, more, rfl, -⟩ := h.head_isDigit
  rfl

/-- A finite number is written as an unsigned numeral, with a minus sign where it is negative. -/
theorem numberChars_eq {n : Number} (h : n.isFinite) :
    ∃ cs, Unsigned cs ∧ (numberChars n = cs ∨ numberChars n = '-' :: cs) := by
  cases n with
  | int n =>
    refine ⟨Text.digitChars n.natAbs, .positional (positional_digitChars _), ?_⟩
    simp only [numberChars, integerChars]
    split_ifs
    · exact .inr rfl
    · exact .inl rfl
  | double x =>
    cases x with
    | finite negative units representable =>
      have hunsigned := Double.unsigned_magnitudeChars units
      simp only [numberChars]
      split_ifs with hlt
      · have hnegative : negative = true := by
          cases negative with
          | true => rfl
          | false =>
            have hplaces := Number.comparePlaces_eq_lt.1 hlt
            have hplace : (Number.double (.finite false units representable)).place =
                (0, (units : Int)) := rfl
            have hzero : (Number.int 0).place = (0, 0) := by rw [Number.place, Int.zero_mul]
            rw [hplace, hzero] at hplaces
            rcases hplaces with hinfinite | ⟨-, hunits⟩
            · exact absurd hinfinite (Int.lt_irrefl 0)
            · exact absurd hunits (Int.not_lt.2 (Int.natCast_nonneg units))
        subst hnegative
        have htext : (Double.finite true units representable).neg.text =
            String.ofList (Double.magnitudeChars units) := rfl
        rw [htext]
        refine ⟨_, ?_, .inr rfl⟩
        cases hd : Decimal.ofText? (String.ofList (Double.magnitudeChars units)) with
        | none => simpa using hunsigned
        | some d => exact Decimal.unsigned_of_ofText? hunsigned hd
      · unfold Double.textChars
        cases negative with
        | false => exact ⟨_, hunsigned, .inl rfl⟩
        | true => exact ⟨_, hunsigned, .inr rfl⟩
    | _ => cases h

/-- The tokens of a number. -/
def numberTokens (n : Number) : List Token := numeralTokens (numberChars n)

theorem reads_number {n : Number} (h : n.isFinite) : Reads (numberChars n) (numberTokens n) := by
  obtain ⟨cs, hcs, hn | hn⟩ := numberChars_eq h
  · rw [numberTokens, hn]
    exact reads_unsigned hcs
  · rw [numberTokens, hn]
    exact reads_minus hcs

/-! ## Expressions -/

def Comparison.token : Comparison → Token
  | equal => .symbol '='
  | greater => .symbol '>'
  | less => .symbol '<'

def callTokens (function : String) (arguments : List Token) : List Token :=
  .word function :: .symbol '(' :: (arguments ++ [.symbol ')'])

namespace Expr

/-- The tokens of an expression. -/
def tokens : Expr → List Token
  | .column name => [.name name]
  | .text s => [.literal s]
  | .number n => numberTokens n
  | .castText e => callTokens "CAST" (e.tokens ++ [.word "AS", .word "TEXT"])
  | .tryDouble e => callTokens "TRY_CAST" (e.tokens ++ [.word "AS", .word "DOUBLE"])
  | .lower e => callTokens "LOWER" e.tokens
  | .contains a b => callTokens "CONTAINS" (a.tokens ++ .symbol ',' :: b.tokens)
  | .memberText a b => callTokens "JSON_EXTRACT_STRING" (a.tokens ++ .symbol ',' :: b.tokens)
  | .compare op a b => a.tokens ++ op.token :: b.tokens
  | .coalesce a b => callTokens "COALESCE" (a.tokens ++ .symbol ',' :: b.tokens)
  | .and a b =>
    let side (e : Expr) (inside : List Token) : List Token :=
      if e.isConjunction then .symbol '(' :: (inside ++ [.symbol ')']) else inside
    side a a.tokens ++ .word "AND" :: side b b.tokens

/-- Whether all numbers of an expression are finite. -/
def IsFinite : Expr → Prop
  | .column _ | .text _ => True
  | .number n => n.isFinite
  | .castText e | .tryDouble e | .lower e => e.IsFinite
  | .contains a b | .memberText a b | .compare _ a b | .coalesce a b | .and a b =>
    a.IsFinite ∧ b.IsFinite

/-- The text of an expression on one line. -/
def chars (e : Expr) : List Char := (e.pieces false).flatMap Piece.chars

end Expr

theorem tokens_text (s : String) : (Expr.text s).tokens = [.literal s] := rfl

theorem tokens_number (n : Number) : (Expr.number n).tokens = numberTokens n := rfl

theorem tokens_castText (e : Expr) : (Expr.castText e).tokens =
    callTokens "CAST" (e.tokens ++ [.word "AS", .word "TEXT"]) := rfl

theorem tokens_tryDouble (e : Expr) : (Expr.tryDouble e).tokens =
    callTokens "TRY_CAST" (e.tokens ++ [.word "AS", .word "DOUBLE"]) := rfl

theorem tokens_lower (e : Expr) : (Expr.lower e).tokens = callTokens "LOWER" e.tokens := rfl

theorem tokens_contains (a b : Expr) : (Expr.contains a b).tokens =
    callTokens "CONTAINS" (a.tokens ++ .symbol ',' :: b.tokens) := rfl

theorem tokens_coalesce (a b : Expr) : (Expr.coalesce a b).tokens =
    callTokens "COALESCE" (a.tokens ++ .symbol ',' :: b.tokens) := rfl

theorem tokens_compare (op : Comparison) (a b : Expr) :
    (Expr.compare op a b).tokens = a.tokens ++ op.token :: b.tokens := rfl

theorem tokens_and (a b : Expr) : (Expr.and a b).tokens =
    (if a.isConjunction then .symbol '(' :: (a.tokens ++ [.symbol ')']) else a.tokens) ++
      .word "AND" :: if b.isConjunction then .symbol '(' :: (b.tokens ++ [.symbol ')']) else b.tokens :=
  rfl

/-! ### Reading the text of an expression -/

theorem breaks_cons (h : c = ' ' ∨ c = ')' ∨ c = ',') : Breaks (c :: cs) := by
  rintro d hd
  rw [← Option.some.inj hd]
  exact h

theorem passes_comma : Passes [',', ' '] [.symbol ','] := fun _ _ => rfl

theorem passes_close : Passes [')'] [.symbol ')'] := fun _ _ => rfl

theorem reads_pair (ha : Reads a ta) (hb : Reads b tb) :
    Reads (a ++ ([',', ' '] ++ b)) (ta ++ .symbol ',' :: tb) :=
  ha.append (passes_comma.append hb) (breaks_cons (by decide))

/-- A call is read as one when its function is a word. -/
theorem reads_call {function : String}
    (hfunction : Passes (function.toList ++ ['(']) [.word function, .symbol '(']) (h : Reads cs ts) :
    Reads (function.toList ++ ['('] ++ (cs ++ [')'])) (callTokens function ts) :=
  hfunction.append (h.append passes_close.reads (breaks_cons (by decide)))

theorem reads_comparison (op : Comparison) (ha : Reads a ta) (hb : Reads b tb) :
    Reads (a ++ (op.symbol.toList ++ b)) (ta ++ op.token :: tb) := by
  have hop : Passes op.symbol.toList [op.token] := by cases op <;> exact fun _ _ => rfl
  have hbreaks : Breaks (op.symbol.toList ++ b) := by cases op <;> exact breaks_cons (.inl rfl)
  exact ha.append (hop.append hb) hbreaks

/-- A side of a conjunction, in parentheses where it is one itself. -/
theorem reads_side {e : Expr} (h : Reads cs ts) :
    Reads (if e.isConjunction then ['('] ++ (cs ++ [')']) else cs)
      (if e.isConjunction then .symbol '(' :: (ts ++ [.symbol ')']) else ts) := by
  have hopen : Passes ['('] [.symbol '('] := fun _ _ => rfl
  split_ifs
  · exact hopen.append (h.append passes_close.reads (breaks_cons (by decide)))
  · exact h

theorem reads_and (ha : Reads a ta) (hb : Reads b tb) :
    Reads (a ++ (" AND ".toList ++ b)) (ta ++ .word "AND" :: tb) := by
  have hand : Passes " AND ".toList [.word "AND"] := fun _ _ => rfl
  exact ha.append (hand.append hb) (breaks_cons (.inl rfl))

/-- The last word of a text, which does not go on behind it. -/
theorem reads_word {word : List Char} (hword : word ≠ []) (h : word.all isWordChar = true)
    (ha : Passes a ta) : Reads (a ++ word) (ta ++ [.word (String.ofList word)]) := by
  refine ha.append fun tokens rest hrest => ?_
  rw [run_wordChars (List.all_eq_true.1 h), List.nil_append, run_outside_of_breaks hrest, endWord,
    if_neg (by simpa using hword)]
  rfl

/-- What is cast, with the type behind it. -/
theorem reads_as {type : String} (hne : type.toList ≠ []) (htype : type.toList.all isWordChar = true)
    (h : Reads cs ts) :
    Reads (cs ++ (" AS ".toList ++ type.toList)) (ts ++ [.word "AS", .word type]) := by
  have has : Passes " AS ".toList [.word "AS"] := fun _ _ => rfl
  have hword := reads_word hne htype has
  rw [String.ofList_toList] at hword
  exact h.append hword (breaks_cons (.inl rfl))

namespace Expr

theorem chars_castText (e : Expr) : (castText e).chars = "CAST".toList ++ ['('] ++
    ((e.chars ++ (" AS ".toList ++ "TEXT".toList)) ++ [')']) := by
  simp [chars, pieces, Piece.ofWords, Piece.chars]

theorem chars_tryDouble (e : Expr) : (tryDouble e).chars = "TRY_CAST".toList ++ ['('] ++
    ((e.chars ++ (" AS ".toList ++ "DOUBLE".toList)) ++ [')']) := by
  simp [chars, pieces, Piece.ofWords, Piece.chars]

theorem chars_lower (e : Expr) : (lower e).chars = "LOWER".toList ++ ['('] ++ (e.chars ++ [')']) := by
  simp [chars, pieces, call, joinPieces, Piece.ofWords, Piece.chars]

theorem chars_contains (a b : Expr) : (contains a b).chars =
    "CONTAINS".toList ++ ['('] ++ ((a.chars ++ ([',', ' '] ++ b.chars)) ++ [')']) := by
  simp [chars, pieces, call, joinPieces, Piece.ofWords, Piece.chars]

theorem chars_memberText (a b : Expr) : (memberText a b).chars =
    "JSON_EXTRACT_STRING".toList ++ ['('] ++ ((a.chars ++ ([',', ' '] ++ b.chars)) ++ [')']) := by
  simp [chars, pieces, call, joinPieces, Piece.ofWords, Piece.chars]

theorem chars_coalesce (a b : Expr) : (coalesce a b).chars =
    "COALESCE".toList ++ ['('] ++ ((a.chars ++ ([',', ' '] ++ b.chars)) ++ [')']) := by
  simp [chars, pieces, call, joinPieces, Piece.ofWords, Piece.chars]

theorem chars_compare (op : Comparison) (a b : Expr) :
    (compare op a b).chars = a.chars ++ (op.symbol.toList ++ b.chars) := by
  simp [chars, pieces, Piece.ofWords, Piece.chars]

theorem chars_and (a b : Expr) : (and a b).chars =
    (if a.isConjunction then ['('] ++ (a.chars ++ [')']) else a.chars) ++ (" AND ".toList ++
      if b.isConjunction then ['('] ++ (b.chars ++ [')']) else b.chars) := by
  simp only [chars, pieces, Bool.false_and, Bool.false_eq_true, if_false]
  split_ifs <;> simp [parenthesize, Piece.ofWords, Piece.chars]

/-- The text of an expression is read as its tokens, whatever stands in its names and literals. -/
theorem reads_chars {e : Expr} (h : e.IsFinite) : Reads e.chars e.tokens := by
  induction e with
  | column name =>
    have hname := reads_enclose (.inl rfl) name.toList
    rw [quoted, if_pos rfl, String.ofList_toList] at hname
    simpa [chars, pieces, Piece.chars, tokens] using hname
  | text s =>
    have htext := reads_enclose (.inr rfl) s.toList
    rw [quoted, if_neg (by decide), String.ofList_toList] at htext
    simpa [chars, pieces, Piece.chars, tokens] using htext
  | number n => simpa [chars, pieces, Piece.chars, tokens] using reads_number h
  | castText e ih =>
    exact chars_castText e ▸ reads_call (fun _ _ => rfl) (reads_as (List.cons_ne_nil _ _) rfl (ih h))
  | tryDouble e ih =>
    exact chars_tryDouble e ▸ reads_call (fun _ _ => rfl) (reads_as (List.cons_ne_nil _ _) rfl (ih h))
  | lower e ih => exact chars_lower e ▸ reads_call (fun _ _ => rfl) (ih h)
  | contains a b iha ihb =>
    exact chars_contains a b ▸ reads_call (fun _ _ => rfl) (reads_pair (iha h.1) (ihb h.2))
  | memberText a b iha ihb =>
    exact chars_memberText a b ▸ reads_call (fun _ _ => rfl) (reads_pair (iha h.1) (ihb h.2))
  | compare op a b iha ihb => exact chars_compare op a b ▸ reads_comparison op (iha h.1) (ihb h.2)
  | coalesce a b iha ihb =>
    exact chars_coalesce a b ▸ reads_call (fun _ _ => rfl) (reads_pair (iha h.1) (ihb h.2))
  | and a b iha ihb =>
    exact chars_and a b ▸ reads_and (reads_side (iha h.1)) (reads_side (ihb h.2))

end Expr

/-! ## Queries -/

/-- Lists of tokens with commas between them. -/
def joinTokens : List (List Token) → List Token
  | [] => []
  | [ts] => ts
  | ts :: more => ts ++ .symbol ',' :: joinTokens more

namespace Select

def columnTokens (column : Expr × String) : List Token :=
  column.1.tokens ++ [.word "AS", .name column.2]

/-- The tokens of the table; an empty name is not written. -/
def tableTokens (table : String) : List Token := if table = "" then [] else [.name table]

def conditionTokens : Option Expr → List Token
  | some e => .word "WHERE" :: e.tokens
  | none => []

/-- The tokens of a query. -/
def tokens (q : Select) : List Token :=
  .word "SELECT" :: (joinTokens (q.columns.map columnTokens) ++
    .word "FROM" :: (tableTokens q.table ++ conditionTokens q.condition?))

/-- Whether all numbers of a query are finite. -/
def IsFinite (q : Select) : Prop :=
  (∀ column ∈ q.columns, column.1.IsFinite) ∧ ∀ e, q.condition? = some e → e.IsFinite

def columnChars (column : Expr × String) : List Char := (columnPieces false column).flatMap Piece.chars

theorem reads_name (name : String) : Reads (Text.Quoted.enclose '"' name.toList) [.name name] := by
  have hname := reads_enclose (.inl rfl) name.toList
  rwa [quoted, if_pos rfl, String.ofList_toList] at hname

theorem reads_columnChars {column : Expr × String} (h : column.1.IsFinite) :
    Reads (columnChars column) (columnTokens column) := by
  have has : Passes " AS ".toList [.word "AS"] := fun _ _ => rfl
  have hchars : columnChars column =
      column.1.chars ++ (" AS ".toList ++ Text.Quoted.enclose '"' column.2.toList) := by
    simp [columnChars, columnPieces, Expr.chars, Piece.ofWords, Piece.chars]
  rw [hchars]
  exact (Expr.reads_chars h).append (has.append (reads_name column.2)) (breaks_cons (.inl rfl))

theorem reads_columns {columns : List (Expr × String)} (h : ∀ column ∈ columns, column.1.IsFinite) :
    Reads ((joinPieces (.ofWords ", ") (columns.map (columnPieces false))).flatMap Piece.chars)
      (joinTokens (columns.map columnTokens)) := by
  induction columns with
  | nil => exact fun _ _ _ => rfl
  | cons column columns ih =>
    have hcolumn := reads_columnChars (h column List.mem_cons_self)
    have ih := ih fun c hc => h c (List.mem_cons_of_mem _ hc)
    cases columns with
    | nil => exact hcolumn
    | cons next columns =>
      have hpair := reads_pair hcolumn ih
      simpa [joinPieces, joinTokens, columnChars, Piece.ofWords, Piece.chars] using hpair

def conditionChars : Option Expr → List Char
  | some e => " WHERE ".toList ++ e.chars
  | none => []

theorem reads_conditionChars {condition? : Option Expr} (h : ∀ e, condition? = some e → e.IsFinite) :
    Reads (conditionChars condition?) (conditionTokens condition?) := by
  cases condition? with
  | none => exact fun _ _ _ => rfl
  | some e =>
    have hwhere : Passes " WHERE ".toList [.word "WHERE"] := fun _ _ => rfl
    exact hwhere.append (Expr.reads_chars (h e rfl))

theorem breaks_conditionChars (condition? : Option Expr) : Breaks (conditionChars condition?) := by
  cases condition? with
  | none => rintro c ⟨⟩
  | some e => exact breaks_cons (.inl rfl)

/-- What stands behind the columns of a query. -/
def tailChars (q : Select) : List Char :=
  ' ' :: (q.tablePieces.flatMap Piece.chars ++ conditionChars q.condition?)

theorem reads_tailChars {q : Select} (h : ∀ e, q.condition? = some e → e.IsFinite) :
    Reads q.tailChars (.word "FROM" :: (tableTokens q.table ++ conditionTokens q.condition?)) := by
  obtain ⟨columns, table, condition?⟩ := q
  have hcondition := reads_conditionChars h
  have hfrom : Passes " FROM ".toList [.word "FROM"] := fun _ _ => rfl
  by_cases htable : table = ""
  · subst htable
    cases condition? with
    | none =>
      have hblank : Passes [' '] [] := fun _ _ => rfl
      exact @reads_word _ _ "FROM".toList (List.cons_ne_nil _ _) rfl hblank
    | some e => exact hfrom.append hcondition
  · have hchars : tailChars ⟨columns, table, condition?⟩ = " FROM ".toList ++
        (Text.Quoted.enclose '"' table.toList ++ conditionChars condition?) := by
      unfold tailChars tablePieces
      rw [if_pos htable, List.flatMap_cons, List.flatMap_cons, List.flatMap_nil, List.append_nil,
        List.append_assoc]
      rfl
    rw [hchars, tableTokens, if_neg htable]
    exact hfrom.append ((reads_name table).append hcondition (breaks_conditionChars _))

/-- The text of a query on one line has the tokens of the query and no others. -/
theorem lex_compact {q : Select} (h : q.IsFinite) : lex q.compact = some q.tokens := by
  have hselect : Passes "SELECT ".toList [.word "SELECT"] := fun _ _ => rfl
  have hreads := hselect.append ((reads_columns h.1).append (reads_tailChars h.2) (breaks_cons (.inl rfl)))
  have hchars : q.compactPieces.flatMap Piece.chars = "SELECT ".toList ++
      ((joinPieces (.ofWords ", ") (q.columns.map (columnPieces false))).flatMap Piece.chars ++
        q.tailChars) := by
    obtain ⟨columns, table, condition?⟩ := q
    unfold compactPieces tailChars
    cases condition? <;> rw [List.flatMap_cons, List.flatMap_append, List.flatMap_append,
      List.flatMap_cons, List.append_assoc] <;> rfl
  refine lex_eq ?_
  unfold compact render
  rw [String.toList_ofList, hchars]
  exact hreads

end Select

end Rollup.Sql
