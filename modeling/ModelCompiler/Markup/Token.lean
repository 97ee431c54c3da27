import ModelCompiler.Markup.CharacterData
import ModelCompiler.Markup.Name

/-! # The tokens of a document -/

namespace ModelCompiler.Markup

structure Attribute where
  name : Name
  value : String
deriving DecidableEq, Repr

/-- A tag or the text between two tags. Comments, declarations and instructions are no tokens. -/
inductive Token where
  | opening (tag : Name) (attributes : List Attribute)
  | closing (tag : Name)
  | text (content : String)
deriving DecidableEq, Repr

/-- The value of the first attribute whose name is `base` in any name space; empty without one. -/
def valueOf (base : String) (attributes : List Attribute) : String :=
  ((attributes.find? (·.name.base == base)).map (·.value)).getD ""

def isSpace (c : Char) : Bool := c == ' ' || c == '\n' || c == '\r' || c == '\t'

def skipSpace (cs : List Char) : List Char := cs.dropWhile isSpace

/-! ## What is skipped -/

/-- What follows a comment, from after its `<!--`. Two hyphens stand only at its end. -/
def afterComment? : List Char → Option (List Char)
  | '-' :: '-' :: '>' :: rest => some rest
  | '-' :: '-' :: _ => none
  | _ :: rest => afterComment? rest
  | [] => none

/-- Where in a declaration the reader is. -/
inductive DeclarationPart where
  | plain
  | quoted (quote : Char)
  | comment
deriving DecidableEq, Repr

/-- What follows a declaration, from inside it and below `depth` open brackets. -/
def afterDeclaration? : DeclarationPart → Nat → List Char → Option (List Char)
  | .comment, depth, '-' :: '-' :: '>' :: rest => afterDeclaration? .plain depth rest
  | .comment, depth, _ :: rest => afterDeclaration? .comment depth rest
  | .quoted q, depth, c :: rest =>
    afterDeclaration? (if c = q then .plain else .quoted q) depth rest
  | .plain, depth, '<' :: '!' :: '-' :: '-' :: rest => afterDeclaration? .comment depth rest
  | .plain, depth, '<' :: rest => afterDeclaration? .plain (depth + 1) rest
  | .plain, 0, '>' :: rest => some rest
  | .plain, depth + 1, '>' :: rest => afterDeclaration? .plain depth rest
  | .plain, depth, '"' :: rest => afterDeclaration? (.quoted '"') depth rest
  | .plain, depth, '\'' :: rest => afterDeclaration? (.quoted '\'') depth rest
  | .plain, depth, _ :: rest => afterDeclaration? .plain depth rest
  | _, _, [] => none

/-- The parameter of an instruction: what is quoted right after the first mention of its name that
a quotation follows. A mention without one is passed over with the character after it; `skip`
counts the characters of it that are left. -/
def parameter (mention : List Char) : Nat → List Char → String
  | _, [] => ""
  | skip + 1, _ :: cs => parameter mention skip cs
  | 0, c :: cs =>
    if mention.isPrefixOf (c :: cs) then
      match (c :: cs).drop mention.length with
      | [] => ""
      | q :: rest =>
        if q = '"' ∨ q = '\'' then ((Text.cut? q rest).map fun p => String.ofList p.1).getD ""
        else parameter mention mention.length cs
    else parameter mention 0 cs

/-- Whether a document with this declaration of itself can be read. -/
def isReadable (declaration : List Char) : Bool :=
  let version := parameter "version=".toList 0 declaration
  let encoding := (parameter "encoding=".toList 0 declaration).map Char.toLower
  (version == "" || version == "1.0") && (encoding == "" || encoding == "utf-8")

/-- What follows an instruction, from after its `<?`. -/
def afterInstruction? (cs : List Char) : Option (List Char) := do
  let target := cs.takeWhile isNameWord
  if !isName target then none
  let (body, rest) ← Text.cutAt? "?>".toList (skipSpace (cs.dropWhile isNameWord))
  if target = "xml".toList ∧ !isReadable body then none else some rest

/-! ## Tags -/

/-- A quoted value at the beginning of a text, and what follows it. -/
def quotedValue? : List Char → Option (String × List Char)
  | [] => none
  | q :: cs =>
    if q = '"' ∨ q = '\'' then do
      let (raw, rest) ← Text.cut? q cs
      let value ← attributeValue? raw
      some (value, rest)
    else none

/-- An attribute at the beginning of a text, and what follows it. -/
def attribute? (cs : List Char) : Option (Attribute × List Char) := do
  let (name, rest) ← Name.read? cs
  match skipSpace rest with
  | '=' :: rest =>
    let (value, rest) ← quotedValue? (skipSpace rest)
    some ({ name, value }, rest)
  | _ => none

/-- The attributes of an opening tag, whether the tag is closed at once, and what follows it. There
are at most `fuel` attributes. -/
def attributes? : Nat → List Char → Option (List Attribute × Bool × List Char)
  | 0, _ => none
  | fuel + 1, cs =>
    match skipSpace cs with
    | '>' :: rest => some ([], false, rest)
    | '/' :: '>' :: rest => some ([], true, rest)
    | cs => do
      let (a, rest) ← attribute? cs
      let (as, closed, rest) ← attributes? fuel rest
      some (a :: as, closed, rest)

/-- The tokens of an opening tag from after its `<`, and what follows it. -/
def openingTag? (cs : List Char) : Option (List Token × List Char) := do
  let (tag, rest) ← Name.read? cs
  let (attributes, closed, rest) ← attributes? (rest.length + 1) rest
  some (if closed then [.opening tag attributes, .closing tag] else [.opening tag attributes], rest)

/-- The token of a closing tag from after its `</`, and what follows it. -/
def closingTag? (cs : List Char) : Option (List Token × List Char) := do
  let (tag, rest) ← Name.read? cs
  match skipSpace rest with
  | '>' :: rest => some ([.closing tag], rest)
  | _ => none

/-- The token of a literal section from after its `<![CDATA[`, and what follows it. -/
def literalSection? (cs : List Char) : Option (List Token × List Char) := do
  let (raw, rest) ← Text.cutAt? "]]>".toList cs
  let content ← literalData? raw
  some ([.text content], rest)

/-- The tokens of a piece of markup from after its `<`, and what follows it. -/
def markup? : List Char → Option (List Token × List Char)
  | '/' :: cs => closingTag? cs
  | '?' :: cs => (afterInstruction? cs).map ([], ·)
  | '!' :: '-' :: cs => match cs with
    | '-' :: cs => (afterComment? cs).map ([], ·)
    | _ => none
  | '!' :: '[' :: cs =>
    if "CDATA[".toList.isPrefixOf cs then literalSection? (cs.drop 6) else none
  | '!' :: _ :: cs => (afterDeclaration? .plain 0 cs).map ([], ·)
  | cs => openingTag? cs

/-- The tokens at the beginning of a text that is not empty, and what follows them. -/
def front? : List Char → Option (List Token × List Char)
  | '<' :: cs => markup? cs
  | cs => do
    let content ← characterData? (cs.takeWhile (· != '<'))
    some ([.text content], cs.dropWhile (· != '<'))

/-! ## Documents -/

/-- The tags that are open after some tokens, the innermost first, unless one of the tokens closes
another tag than that. -/
def nesting? (openTags : List Name) : List Token → Option (List Name)
  | [] => some openTags
  | .opening tag _ :: ts => nesting? (tag :: openTags) ts
  | .closing tag :: ts => match openTags with
    | t :: others => if t = tag then nesting? others ts else none
    | [] => none
  | .text _ :: ts => nesting? openTags ts

/-- The tokens of a document as far as it is well formed, and whether it is so to its end. -/
structure Scan where
  tokens : List Token := []
  complete : Bool
deriving DecidableEq, Repr

/-- Scans a text below open tags, in at most `fuel` pieces. -/
def scanFrom : Nat → List Name → List Char → Scan
  | 0, _, _ => { complete := false }
  | _ + 1, openTags, [] => { complete := openTags.isEmpty }
  | fuel + 1, openTags, c :: cs =>
    match front? (c :: cs) with
    | none => { complete := false }
    | some (tokens, rest) => match nesting? openTags tokens with
      | none => { complete := false }
      | some openTags =>
        let more := scanFrom fuel openTags rest
        { more with tokens := tokens ++ more.tokens }

/-- The tokens of a document. -/
def scan (document : String) : Scan :=
  scanFrom (document.toList.length + 1) [] document.toList

end ModelCompiler.Markup
