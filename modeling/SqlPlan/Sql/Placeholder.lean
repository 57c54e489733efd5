/-!
# SqlPlan — placeholders of a SQL text

A `?` is a placeholder unless it stands in quoted text or in a comment. A text
is read one character at a time by a machine without lookahead:

* `Region` — what the characters read so far leave open. `minus`, `slash` and
  `blockStar` remember the one character that may begin or end a comment;
* `Region.next` — the region after one more character;
* `Token.read` — what one character is: a placeholder, or itself;
* `tokens` — one token for each character of a text.

Because nothing is looked ahead for, the reading of a concatenation is the
reading of its first part followed by the reading of its second part from
the region where the first one ends (`tokensFrom_append`).
-/

namespace SqlPlan

-- ---------------------------------------------------------------------------
-- Regions
-- ---------------------------------------------------------------------------

/-- What a reader of SQL is inside of, between two characters. -/
inductive Region where
  /-- Outside quotes and comments. -/
  | code
  /-- Outside, after a `-` that may begin a line comment. -/
  | minus
  /-- Outside, after a `/` that may begin a block comment. -/
  | slash
  /-- Inside text quoted by `mark`. -/
  | quoted (mark : Char)
  /-- Inside a comment that ends with its line. -/
  | lineComment
  /-- Inside a block comment. -/
  | blockComment
  /-- Inside a block comment, after a `*` that may end it. -/
  | blockStar
  deriving DecidableEq, Inhabited

namespace Region

/-- Outside quotes and comments, whatever may begin next. -/
def isCode : Region → Bool
  | code | minus | slash => true
  | _ => false

/-- A single quote, a double quote or a backquote opens quoted text. -/
def isQuote (c : Char) : Bool :=
  c = '\x27' || c = '\x22' || c = '\x60'

/-- The region after a character of code that continues no comment mark. -/
def afterCode (c : Char) : Region :=
  if isQuote c then quoted c
  else if c = '-' then minus
  else if c = '/' then slash
  else code

/-- The region after one more character. A doubled quote closes and reopens
quoted text, so the text stays quoted across it. -/
def next : Region → Char → Region
  | code, c => afterCode c
  | minus, c => if c = '-' then lineComment else afterCode c
  | slash, c => if c = '*' then blockComment else afterCode c
  | quoted mark, c => if c = mark then code else quoted mark
  | lineComment, c => if c = '\n' then code else lineComment
  | blockComment, c => if c = '*' then blockStar else blockComment
  | blockStar, c =>
    if c = '/' then code else if c = '*' then blockStar else blockComment

/-- The region a text leads to. -/
def after (r : Region) (text : List Char) : Region :=
  text.foldl next r

@[simp] theorem after_nil (r : Region) : r.after [] = r := rfl

@[simp] theorem after_cons (r : Region) (c : Char) (text : List Char) :
    r.after (c :: text) = (r.next c).after text := rfl

@[simp] theorem after_append (r : Region) (a b : List Char) :
    r.after (a ++ b) = (r.after a).after b := by
  simp [after]

end Region

-- ---------------------------------------------------------------------------
-- Tokens
-- ---------------------------------------------------------------------------

/-- A placeholder, or a character that stands for itself. -/
inductive Token where
  | placeholder
  | char (c : Char)
  deriving DecidableEq, Inhabited

/-- What a character read in a region is. -/
def Token.read (r : Region) (c : Char) : Token :=
  if r.isCode && c = '?' then .placeholder else .char c

/-- The character a token was read from. -/
def Token.toChar : Token → Char
  | .placeholder => '?'
  | .char c => c

/-- One token for each character, read from a given region on. -/
def tokensFrom : Region → List Char → List Token
  | _, [] => []
  | r, c :: text => Token.read r c :: tokensFrom (r.next c) text

@[simp] theorem tokensFrom_nil (r : Region) : tokensFrom r [] = [] := rfl

@[simp] theorem tokensFrom_cons (r : Region) (c : Char) (text : List Char) :
    tokensFrom r (c :: text) = Token.read r c :: tokensFrom (r.next c) text := rfl

theorem tokensFrom_append (r : Region) (a b : List Char) :
    tokensFrom r (a ++ b) = tokensFrom r a ++ tokensFrom (r.after a) b := by
  induction a generalizing r with
  | nil => rfl
  | cons c a ih => simp [ih]

/-- The tokens of a SQL text, which begins outside quotes and comments. -/
def tokens (sql : String) : List Token :=
  tokensFrom .code sql.toList

-- ---------------------------------------------------------------------------
-- Counting and numbering
-- ---------------------------------------------------------------------------

/-- How many placeholders a SQL text has. -/
def countPlaceholders (sql : String) : Nat :=
  (tokens sql).count .placeholder

/-- Writes tokens with the placeholders numbered from `n + 1` on. -/
def writeNumbered : Nat → List Token → List Char
  | _, [] => []
  | n, .placeholder :: rest => '$' :: Nat.toDigits 10 (n + 1) ++ writeNumbered (n + 1) rest
  | n, .char c :: rest => c :: writeNumbered n rest

/-- The SQL text with its placeholders written `$1`, `$2`, … in order. -/
def numberPlaceholders (sql : String) : String :=
  String.ofList (writeNumbered 0 (tokens sql))

end SqlPlan
