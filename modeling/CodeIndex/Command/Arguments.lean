/-! Reading the words of a command line: options with and without a value, and the other words. -/
namespace CodeIndex.Command

/-- What an option does to the options so far. -/
inductive OptionRule (σ : Type) where
  | flag (apply : σ → σ)
  | value (apply : String → σ → σ)

/-- The rules of the options that are known, by name. -/
abbrev OptionRules (σ : Type) := List (String × OptionRule σ)

/-- Splits a word at its first equality sign. -/
def splitValue (word : String) : String × Option String :=
  let chars := word.toList
  let name := chars.takeWhile (· ≠ '=')
  if name.length = chars.length then (word, none)
  else (String.ofList name, some (String.ofList (chars.drop (name.length + 1))))

/-- Whether a word is an option: a dash and something after it. -/
def isOption (word : String) : Bool := word.toList.head? = some '-' && 1 < word.length

/-- The name of an option with the value that is attached to it. A long option has its value after
an equality sign, a short one right after its letter. -/
def splitOption (word : String) : String × Option String :=
  match word.toList with
  | '-' :: '-' :: _ => splitValue word
  | '-' :: letter :: rest =>
    (String.ofList ['-', letter], if rest.isEmpty then none else some (String.ofList rest))
  | _ => (word, none)

/-- Reads words up to the end, or up to the first one that is no option unless options may come
after others. After two dashes there are no more options. There is no result if an option is not
known, lacks its value, or has one that it does not take. -/
def readWords {σ : Type} (rules : OptionRules σ) (mixed : Bool) :
    List String → σ → Option (σ × List String)
  | [], options => some (options, [])
  | word :: rest, options =>
    if word = "--" then some (options, rest)
    else if isOption word then
      match splitOption word with
      | (name, attached) =>
        match rules.lookup name, attached, rest with
        | some (.flag apply), none, rest => readWords rules mixed rest (apply options)
        | some (.value apply), some value, rest => readWords rules mixed rest (apply value options)
        | some (.value apply), none, value :: rest =>
          readWords rules mixed rest (apply value options)
        | _, _, _ => none
    else if mixed then
      (readWords rules mixed rest options).map fun (options, words) => (options, word :: words)
    else some (options, word :: rest)

end CodeIndex.Command
