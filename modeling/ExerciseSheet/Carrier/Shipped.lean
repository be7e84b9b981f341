import ExerciseSheet.Carrier.Basic

/-!
# The shipped carrier

The preamble of a sheet on algorithms, with the commands that the shipped catalog inserts.
-/

namespace ExerciseSheet

/-- The shipped carrier. -/
def Carrier.shipped : Text := Text.ofLines [
  "\\documentclass[11pt,a4paper]\x7barticle\x7d",
  "",
  "\\usepackage[utf8]\x7binputenc\x7d",
  "\\usepackage[T1]\x7bfontenc\x7d",
  "\\usepackage[margin=2.5cm]\x7bgeometry\x7d",
  "\\usepackage\x7bamsmath,amssymb,amsthm\x7d",
  "\\usepackage\x7balgorithm\x7d",
  "\\usepackage\x7balgpseudocode\x7d",
  "\\usepackage\x7benumitem\x7d",
  "\\usepackage\x7bxcolor\x7d",
  "\\usepackage\x7bifthen\x7d",
  "",
  "% Sheet number, set by the editor",
  "\\newcommand\x7b\\exercisenum\x7d\x7bX\x7d",
  "",
  "% Review mode switch, flipped by the editor",
  "\\newif\\ifreviewmode",
  "\\reviewmodefalse",
  "",
  "% Complexity notation",
  "\\newcommand\x7b\\BigO\x7d[1]\x7b\\mathcal\x7bO\x7d\\left(#1\\right)\x7d",
  "\\newcommand\x7b\\BigOmega\x7d[1]\x7b\\Omega\\left(#1\\right)\x7d",
  "\\newcommand\x7b\\BigTheta\x7d[1]\x7b\\Theta\\left(#1\\right)\x7d",
  "\\newcommand\x7b\\floor\x7d[1]\x7b\\left\\lfloor #1 \\right\\rfloor\x7d",
  "\\newcommand\x7b\\ceil\x7d[1]\x7b\\left\\lceil #1 \\right\\rceil\x7d",
  "\\newcommand\x7b\\abs\x7d[1]\x7b\\left| #1 \\right|\x7d",
  "\\newcommand\x7b\\set\x7d[1]\x7b\\left\\\x7b #1 \\right\\\x7d\x7d",
  "\\newcommand\x7b\\card\x7d[1]\x7b\\left| #1 \\right|\x7d",
  "",
  "% Number sets and logic",
  "\\newcommand\x7b\\N\x7d\x7b\\mathbb\x7bN\x7d\x7d",
  "\\newcommand\x7b\\Z\x7d\x7b\\mathbb\x7bZ\x7d\x7d",
  "\\newcommand\x7b\\R\x7d\x7b\\mathbb\x7bR\x7d\x7d",
  "\\newcommand\x7b\\AND\x7d\x7b\\wedge\x7d",
  "\\newcommand\x7b\\OR\x7d\x7b\\vee\x7d",
  "\\newcommand\x7b\\NOT\x7d\x7b\\neg\x7d",
  "\\newcommand\x7b\\TRUE\x7d\x7b\\textsc\x7bTrue\x7d\x7d",
  "\\newcommand\x7b\\FALSE\x7d\x7b\\textsc\x7bFalse\x7d\x7d",
  "",
  "% Exercise structure",
  "\\newcounter\x7bexercisecounter\x7d",
  "\\newcommand\x7b\\exercisetitle\x7d[1]\x7b%",
  "  \\stepcounter\x7bexercisecounter\x7d%",
  "  \\section*\x7b#1\x7d%",
  "\x7d",
  "\\newcommand\x7b\\exercisepart\x7d[1]\x7b\\subsection*\x7b#1\x7d\x7d",
  "\\newcommand\x7b\\points\x7d[1]\x7b\\hfill\\textbf\x7b[#1 points]\x7d\x7d",
  "\\newcommand\x7b\\totalpoints\x7d[1]\x7b\\par\\noindent\\textbf\x7bTotal: #1 points\x7d\x7d",
  "\\newcommand\x7b\\score\x7d[2]\x7b%",
  "  \\ifreviewmode\\par\\noindent\\textcolor\x7bred\x7d\x7b\\textbf\x7bPoints: #1/#2\x7d\x7d\\fi%",
  "\x7d",
  "",
  "% Numbered multi-line equations",
  "\\newenvironment\x7bmultilinefunction\x7d[1][]\x7b\\begin\x7bequation\x7d\x7d"
    ++ "\x7b\\end\x7bequation\x7d\x7d",
  "",
  "\\title\x7bExercise Sheet \\exercisenum\x7d",
  "\\date\x7b\x7d",
  "",
  "\\begin\x7bdocument\x7d",
  "\\maketitle",
  "",
  "% Content will be inserted here by the editor",
  "",
  "\\end\x7bdocument\x7d",
  ""]

end ExerciseSheet
