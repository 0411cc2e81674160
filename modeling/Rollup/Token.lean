/-
  Tokens: metric names, hosts and ids as a request gives them.

  A token with a `%` in it is a pattern, any other is exact.  A list of tokens splits into its
  exact ones and its patterns, each in their given order.
-/
namespace Rollup.Token

/-- The character that makes a token a pattern. -/
def wildcard : Char := '%'

/-- Is the token a pattern? -/
def isPattern (token : String) : Bool := token.toList.contains wildcard

/-- Is one of the tokens a pattern? -/
def anyPattern (tokens : List String) : Bool := tokens.any isPattern

/-- The exact tokens, in order. -/
def exact (tokens : List String) : List String := tokens.filter fun t => !isPattern t

/-- The patterns, in order. -/
def patterns (tokens : List String) : List String := tokens.filter isPattern

/-- The same tokens, the exact ones before the patterns. -/
def exactFirst (tokens : List String) : List String := exact tokens ++ patterns tokens

theorem exact_append (xs ys : List String) : exact (xs ++ ys) = exact xs ++ exact ys :=
  List.filter_append ..

theorem patterns_append (xs ys : List String) :
    patterns (xs ++ ys) = patterns xs ++ patterns ys :=
  List.filter_append ..

/-- Exact tokens hold no patterns. -/
theorem patterns_exact (xs : List String) : patterns (exact xs) = [] := by
  simp [patterns, exact]

/-- Patterns hold no exact tokens. -/
theorem exact_patterns (xs : List String) : exact (patterns xs) = [] := by
  simp [patterns, exact]

theorem exact_exact (xs : List String) : exact (exact xs) = exact xs := by
  simp [exact]

theorem patterns_patterns (xs : List String) : patterns (patterns xs) = patterns xs := by
  simp [patterns]

/-- Sorting the exact tokens to the front a second time moves nothing. -/
theorem exactFirst_exactFirst (xs : List String) : exactFirst (exactFirst xs) = exactFirst xs := by
  simp [exactFirst, exact_append, patterns_append, exact_exact, patterns_exact, exact_patterns,
    patterns_patterns]

example : exactFirst ["a%", "b", "%", "c"] = ["b", "c", "a%", "%"] := by decide +kernel

end Rollup.Token
