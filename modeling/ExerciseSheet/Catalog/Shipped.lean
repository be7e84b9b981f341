import ExerciseSheet.Catalog.Basic

/-!
# The shipped catalog

The vocabulary of an exercise sheet on algorithms: complexity and numbers, comparisons, sets,
functions, quantifiers and arrows in math, then text formatting, exercise structure, and two
scaffolds of several lines.
-/

namespace ExerciseSheet

namespace Shipped

/-- An entry that makes sense in math only. -/
def math (id label description : String) (keywords : List String) (symbol : String) : Entry :=
  ⟨id.toList, label.toList, description.toList, symbol.toList, keywords.map String.toList, false,
    true⟩

/-- An entry for running text. -/
def plain (id label description : String) (keywords : List String) (symbol : String) : Entry :=
  ⟨id.toList, label.toList, description.toList, symbol.toList, keywords.map String.toList, false,
    false⟩

/-- An entry for a scaffold. -/
def scaffold (id : Text) (label description : String) (keywords : List String) (symbol : String) :
    Entry :=
  ⟨id, label.toList, description.toList, symbol.toList, keywords.map String.toList, true, false⟩

/-- A block of pseudocode. -/
def algorithmScaffold : Text := Text.ofLines [
    "",
    "\\begin\x7balgorithm\x7d",
    "\\caption\x7bAlgorithm Name\x7d\\label\x7balg:label\x7d",
    "\\begin\x7balgorithmic\x7d[1]",
    "\\Require Input specification",
    "\\Ensure Output specification",
    "\\State $x \\gets 0$",
    "\\While\x7b$condition$\x7d",
    "    \\State do something",
    "\\EndWhile",
    "\\State \\Return $x$",
    "\\end\x7balgorithmic\x7d",
    "\\end\x7balgorithm\x7d",
    ""]

/-- A function defined by cases over several lines. -/
def functionScaffold : Text := Text.ofLines [
    "",
    "\\begin\x7bmultilinefunction\x7d[label]",
    "    T(n) = \\begin\x7bcases\x7d",
    "        \\Theta(1) & \\text\x7bif \x7d n = 1\\\\",
    "        f(n) & \\text\x7bif \x7d n > 1",
    "    \\end\x7bcases\x7d",
    "\\end\x7bmultilinefunction\x7d",
    ""]

/-- The shipped entries in palette order. -/
def entries : List Entry := [
  math "\\BigO\x7b\x7d" "Big O" "O(n) complexity notation"
    ["bigo", "complexity", "time", "big", "o"] "⊙",
  math "\\BigOmega\x7b\x7d" "Big Omega" "Ω(n) lower bound"
    ["bigomega", "omega", "complexity", "lower"] "Ω",
  math "\\BigTheta\x7b\x7d" "Big Theta" "Θ(n) tight bound"
    ["bigtheta", "theta", "complexity", "tight"] "Θ",
  math "\\floor\x7b\x7d" "Floor" "⌊x⌋ round down" ["floor", "round", "down"] "⌊⌋",
  math "\\ceil\x7b\x7d" "Ceiling" "⌈x⌉ round up" ["ceil", "ceiling", "round", "up"] "⌈⌉",
  math "\\abs\x7b\x7d" "Absolute Value" "|x| absolute value" ["abs", "absolute", "value"] "|x|",
  math "\\set\x7b\x7d" "Set" "\x7b1,2,3\x7d set notation" ["set", "collection"] "\x7b \x7d",
  math "\\card\x7b\x7d" "Cardinality" "|A| set cardinality" ["card", "cardinality", "size"] "|A|",
  math "x \\gets y" "Assignment" "x ← y assignment" ["assignment", "gets", "assign", "arrow"] "←",
  math "\\AND" "Logical AND" "∧ logical and" ["and", "logical", "conjunction"] "∧",
  math "\\OR" "Logical OR" "∨ logical or" ["or", "logical", "disjunction"] "∨",
  math "\\NOT" "Logical NOT" "¬ logical not" ["not", "logical", "negation"] "¬",
  math "\\N" "Natural Numbers" "ℕ natural numbers" ["natural", "numbers", "n", "positive"] "ℕ",
  math "\\Z" "Integers" "ℤ integers" ["integers", "z", "whole"] "ℤ",
  math "\\R" "Real Numbers" "ℝ real numbers" ["real", "numbers", "r"] "ℝ",
  math "\\TRUE" "True" "TRUE boolean value" ["true", "boolean", "bool"] "⊤",
  math "\\FALSE" "False" "FALSE boolean value" ["false", "boolean", "bool"] "⊥",
  math "\\leq" "Less or Equal" "≤ less than or equal to" ["leq", "less", "equal", "le"] "≤",
  math "\\geq" "Greater or Equal" "≥ greater than or equal to"
    ["geq", "greater", "equal", "ge"] "≥",
  math "\\neq" "Not Equal" "≠ not equal to" ["neq", "not", "equal", "ne"] "≠",
  math "\\approx" "Approximately" "≈ approximately equal"
    ["approx", "approximately", "about"] "≈",
  math "\\equiv" "Equivalent" "≡ equivalent to" ["equiv", "equivalent", "congruent"] "≡",
  math "\\in" "Element Of" "∈ element of set" ["in", "element", "member"] "∈",
  math "\\notin" "Not Element Of" "∉ not element of set" ["notin", "not", "element"] "∉",
  math "\\subset" "Subset" "⊂ proper subset" ["subset", "sub"] "⊂",
  math "\\subseteq" "Subset or Equal" "⊆ subset or equal" ["subseteq", "subset", "equal"] "⊆",
  math "\\cup" "Union" "∪ set union" ["cup", "union"] "∪",
  math "\\cap" "Intersection" "∩ set intersection" ["cap", "intersection", "inter"] "∩",
  math "\\emptyset" "Empty Set" "∅ empty set" ["emptyset", "empty", "null"] "∅",
  math "\\sum_\x7bi=0\x7d^\x7bn\x7d" "Summation" "Σ summation with limits"
    ["sum", "summation", "sigma"] "Σ",
  math "\\prod_\x7bi=0\x7d^\x7bn\x7d" "Product" "Π product with limits"
    ["prod", "product", "pi"] "Π",
  math "\\lim_\x7bn \\to \\infty\x7d" "Limit" "lim limit as n approaches"
    ["lim", "limit", "approaches"] "lim",
  math "\\infty" "Infinity" "∞ infinity symbol" ["infty", "infinity", "inf"] "∞",
  math "\\log_\x7b\x7d" "Logarithm" "log with base" ["log", "logarithm"] "log",
  math "\\ln" "Natural Log" "ln natural logarithm" ["ln", "natural", "log"] "ln",
  math "\\sqrt\x7b\x7d" "Square Root" "√x square root" ["sqrt", "square", "root"] "√",
  math "\\frac\x7b\x7d\x7b\x7d" "Fraction" "a/b fraction" ["frac", "fraction", "divide"] "⁄",
  math "\\forall" "For All" "∀ for all (universal quantifier)" ["forall", "all", "universal"] "∀",
  math "\\exists" "There Exists" "∃ there exists (existential quantifier)"
    ["exists", "exist", "existential"] "∃",
  math "\\rightarrow" "Right Arrow" "→ right arrow" ["rightarrow", "arrow", "right", "to"] "→",
  math "\\leftarrow" "Left Arrow" "← left arrow" ["leftarrow", "arrow", "left"] "←",
  math "\\Rightarrow" "Implies" "⇒ implies (logical implication)"
    ["implies", "rightarrow", "implication"] "⇒",
  math "\\Leftrightarrow" "If and Only If" "⇔ if and only if (iff)"
    ["iff", "leftrightarrow", "equivalent", "biconditional"] "⇔",
  plain "\\textbf\x7b\x7d" "Bold Text" "Bold formatting"
    ["bold", "textbf", "strong", "format"] "𝐁",
  plain "\\textit\x7b\x7d" "Italic Text" "Italic formatting"
    ["italic", "textit", "emphasis", "format"] "𝐼",
  plain "\\emph\x7b\x7d" "Emphasized Text" "Emphasized formatting"
    ["emph", "emphasis", "italic", "format"] "𝐸",
  plain "\\underline\x7b\x7d" "Underlined Text" "Underline formatting"
    ["underline", "under", "format"] "U\u0332",
  plain "\\texttt\x7b\x7d" "Monospace Text" "Monospace/code formatting"
    ["monospace", "texttt", "code", "mono", "format"] "⌨",
  plain "\\section\x7b\x7d" "Section" "Section heading" ["section", "heading", "title"] "§",
  plain "\\subsection\x7b\x7d" "Subsection" "Subsection heading"
    ["subsection", "heading", "subtitle"] "§§",
  plain "\\exercisetitle\x7b\x7d" "Exercise Title" "Start new exercise section"
    ["exercise", "title", "heading"] "📝",
  plain "\\exercisepart\x7b\x7d" "Exercise Part" "Part (a), (b), etc."
    ["exercise", "part", "section"] "📋",
  plain "\\points\x7b\x7d" "Points" "[5 points] for a section" ["points", "score", "marks"] "✓",
  plain "\\totalpoints\x7b\x7d" "Total Points" "Total: 20 points"
    ["total", "points", "sum", "score"] "∑",
  plain "\\score\x7b\x7d\x7b\x7d" "Score" "Points: 2/3 format"
    ["score", "grade", "marks", "review", "points"] "✎",
  plain "\\begin\x7bitemize\x7d\n    \\item \x7b\x7d\n\\end\x7bitemize\x7d"
    "List" "Bulleted list with one item"
    ["list", "itemize", "bullet", "items", "ul"] "•",
  scaffold algorithmScaffold "Algorithm Block" "Complete algorithm environment"
    ["algorithm", "alg", "pseudocode", "block"] "🔧",
  scaffold functionScaffold "Multiline Function" "Numbered multi-line equation environment"
    ["multiline", "function", "equation", "cases", "numbered", "recurrence"] "🔢"]

end Shipped

/-- The shipped catalog. -/
def Catalog.shipped : Catalog where
  entries := Shipped.entries
  nodup_ids := by decide +kernel
  label_ne_nil := by decide +kernel

end ExerciseSheet
