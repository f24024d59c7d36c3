/-! The names of the symbols that formulas may hold. -/

namespace TankArena.Host.Formula

/-- Names written in lines, with spaces between them. -/
def namesIn (lines : List String) : List (List Char) :=
  lines.flatMap fun line => line.toList.splitOn ' '

/-- Every name that stands for a symbol. -/
def symbolNames : List (List Char) := namesIn
  ["AA AE BbbC BbbN BbbP BbbQ BbbR BbbZ Bumpeq Cap Colon Cup DH Delta Doteq Downarrow Equiv Finv",
   "Game Gamma H Im Join L Lambda Ldsh Leftarrow Leftrightarrow Lleftarrow Longleftarrow",
   "Longleftrightarrow Longrightarrow Lsh Nearrow Nwarrow O OE Omega P Phi Pi Psi QED Rdsh Re",
   "Rightarrow Rrightarrow Rsh S Searrow Sigma Subset Supset Swarrow Theta Thorn Uparrow",
   "Updownarrow Upsilon Vdash Vert Vvdash Xi aa ac acute acwopencirclearrow adots ae aleph alpha",
   "amalg angle approx approxeq approxident arceq ast asterisk asymp backcong backepsilon",
   "backprime backsim backsimeq backslash bagmember bar barleftarrow barvee barwedge because",
   "beta beth between bigcap bigcirc bigcup bigodot bigoplus bigotimes bigsqcup bigstar",
   "bigtriangledown bigtriangleup biguplus bigvee bigwedge blacksquare blacktriangle",
   "blacktriangledown blacktriangleleft blacktriangleright bot bowtie boxbar boxdot boxminus",
   "boxplus boxtimes breve bullet bumpeq c candra cap carriagereturn cdot cdotp cdots cent check",
   "checkmark chi circ circeq circlearrowleft circlearrowright circledR circledS circledast",
   "circledcirc circleddash circumflexaccent clubsuit clubsuitopen colon coloneq",
   "combiningacuteaccent combiningbreve combiningdiaeresis combiningdotabove",
   "combiningfourdotsabove combininggraveaccent combiningoverline combiningrightarrowabove",
   "combiningthreedotsabove combiningtilde complement cong coprod copyright cup cupdot",
   "cupleftarrow curlyeqprec curlyeqsucc curlyvee curlywedge curvearrowleft curvearrowright",
   "cwopencirclearrow d dag dagger daleth danger dashleftarrow dashrightarrow dashv ddag ddagger",
   "ddddot dddot ddot ddots degree delta dh diamond diamondsuit digamma disin div divideontimes",
   "dot doteq doteqdot dotminus dotplus dots dotsminusdots doublebarwedge downarrow",
   "downdownarrows downharpoonleft downharpoonright downzigzagarrow ell emdash emptyset endash",
   "enspace epsilon eqcirc eqcolon eqdef eqgtr eqless eqsim eqslantgtr eqslantless equal",
   "equalparallel equiv eta eth exists fallingdotseq flat forall frakC frakZ frown gamma geq",
   "geqq geqslant gg ggg gimel gnapprox gneqq gnsim grave greater gtrapprox gtrdot gtreqless",
   "gtreqqless gtrless gtrsim guillemetleft guillemetright guilsinglleft guilsinglright hat hbar",
   "heartsuit hermitmatrix hookleftarrow hookrightarrow hslash i iiiint iiint iint imageof imath",
   "in increment infty int intercal invnot iota isinE isindot isinobar isins isinvb jmath k",
   "kappa kernelcontraction l lambda lambdabar langle lasp lbrace lbrack lceil ldots leadsto",
   "leftarrow leftarrowtail leftbrace leftharpoonaccent leftharpoondown leftharpoonup",
   "leftleftarrows leftparen leftrightarrow leftrightarrows leftrightharpoons",
   "leftrightsquigarrow leftsquigarrow leftthreetimes leq leqq leqslant less lessapprox lessdot",
   "lesseqgtr lesseqqgtr lessgtr lesssim lfloor lgroup lhd ll llcorner lll lnapprox lneqq lnsim",
   "longleftarrow longleftrightarrow longmapsto longrightarrow looparrowleft looparrowright lq",
   "lrcorner ltimes macron maltese mapsdown mapsfrom mapsto mapsup measeq measuredangle",
   "measuredrightangle merge mho mid minus minuscolon models mp mu multimap nLeftarrow",
   "nLeftrightarrow nRightarrow nVDash nVdash nabla napprox natural ncong ne nearrow neg neq",
   "nequiv nexists ngeq ngtr ngtrless ngtrsim ni niobar nis nisd nleftarrow nleftrightarrow nleq",
   "nless nlessgtr nlesssim nmid not notin notsmallowns nparallel nprec npreccurlyeq nrightarrow",
   "nsim nsimeq nsqsubseteq nsqsupseteq nsubset nsubseteq nsucc nsucccurlyeq nsupset nsupseteq",
   "ntriangleleft ntrianglelefteq ntriangleright ntrianglerighteq nu nvDash nvdash nwarrow o",
   "obar ocirc odot oe oequal oiiint oiint oint omega ominus oplus origof oslash otimes overarc",
   "overleftarrow overleftrightarrow parallel partial perp perthousand phi pi pitchfork plus pm",
   "prec precapprox preccurlyeq preceq precnapprox precnsim precsim prime prod propto prurel psi",
   "quad questeq rangle rasp ratio rbrace rbrack rceil rfloor rgroup rhd rho rightModels",
   "rightangle rightarrow rightarrowbar rightarrowtail rightassert rightbrace rightharpoonaccent",
   "rightharpoondown rightharpoonup rightleftarrows rightleftharpoons rightparen",
   "rightrightarrows rightsquigarrow rightthreetimes rightzigzagarrow ring risingdotseq rq",
   "rtimes scrB scrE scrF scrH scrI scrL scrM scrR scre scrg scro scurel searrow setminus sharp",
   "sigma sim simeq simneqq sinewave slash smallin smallintclockwise smallointctrcclockwise",
   "smallowns smallsetminus smallvarointclockwise smile solbar spadesuit spadesuitopen",
   "sphericalangle sqcap sqcup sqsubset sqsubseteq sqsubsetneq sqsupset sqsupseteq sqsupsetneq",
   "ss star stareq sterling subset subseteq subseteqq subsetneq subsetneqq succ succapprox",
   "succcurlyeq succeq succnapprox succnsim succsim sum supset supseteq supseteqq supsetneq",
   "supsetneqq swarrow t tau textasciiacute textasciicircum textasciigrave textasciitilde",
   "textexclamdown textquestiondown textquotedblleft textquotedblright therefore theta",
   "thickspace thorn tilde times to top triangle triangledown triangleeq triangleleft",
   "trianglelefteq triangleq triangleright trianglerighteq turnednot twoheaddownarrow",
   "twoheadleftarrow twoheadrightarrow twoheaduparrow ulcorner underbar unlhd unrhd uparrow",
   "updownarrow updownarrowbar updownarrows upharpoonleft upharpoonright uplus upsilon",
   "upuparrows upzigzagarrow urcorner vDash varepsilon varisinobar varisins varkappa",
   "varlrtriangle varniobar varnis varnothing varphi varpi varpropto varrho varsigma vartheta",
   "vartriangle vartriangleleft vartriangleright vdash vdots vec vee veebar veeeq vert wedge",
   "wedgeq widebar widehat widetilde wp wr xi yen zeta"]

/-- The names of operators, relations, arrows and marks, which are set with spaces beside them. -/
def spacedNames : List (List Char) := namesIn
  ["Bumpeq Cap Cup Doteq Downarrow Equiv Join Ldsh Leftarrow Leftrightarrow Lleftarrow",
   "Longleftarrow Longleftrightarrow Longrightarrow Lsh Nearrow Nwarrow Rdsh Rightarrow",
   "Rrightarrow Rsh Searrow Subset Supset Swarrow Uparrow Updownarrow Vdash Vvdash amalg approx",
   "approxeq approxident arceq ast asymp backcong backepsilon backsim backsimeq bagmember",
   "barleftarrow barvee barwedge because between bigcirc bigtriangledown bigtriangleup",
   "blacktriangleleft blacktriangleright bot bowtie boxbar boxdot boxminus boxplus boxtimes",
   "bullet bumpeq cap cdot cdotp circ circeq circlearrowleft circlearrowright circledast",
   "circledcirc circleddash coloneq cong cup cupdot cupleftarrow curlyeqprec curlyeqsucc",
   "curlyvee curlywedge curvearrowleft curvearrowright cwopencirclearrow dagger dashleftarrow",
   "dashrightarrow dashv ddagger diamond disin div divideontimes doteq doteqdot dotminus dotplus",
   "dots dotsminusdots doublebarwedge downarrow downdownarrows downharpoonleft downharpoonright",
   "downzigzagarrow eqcirc eqcolon eqdef eqgtr eqless eqsim eqslantgtr eqslantless equal",
   "equalparallel equiv fallingdotseq frown geq geqq geqslant gg ggg gnapprox gneqq gnsim",
   "gtrapprox gtrdot gtreqless gtreqqless gtrless gtrsim hookleftarrow hookrightarrow in",
   "intercal isinE isindot isinobar isins isinvb leadsto leftarrow leftarrowtail leftharpoondown",
   "leftharpoonup leftleftarrows leftrightarrow leftrightarrows leftrightharpoons",
   "leftrightsquigarrow leftsquigarrow leftthreetimes leq leqq leqslant lessapprox lessdot",
   "lesseqgtr lesseqqgtr lessgtr lesssim lhd ll lll lnapprox lneqq lnsim longleftarrow",
   "longleftrightarrow longmapsto longrightarrow looparrowleft looparrowright ltimes mapsdown",
   "mapsfrom mapsto mapsup measeq measuredrightangle merge mid minuscolon models mp multimap",
   "nLeftarrow nLeftrightarrow nRightarrow nVDash nVdash napprox ncong ne nearrow neq nequiv",
   "ngeq ngtr ngtrless ngtrsim ni niobar nis nisd nleftarrow nleftrightarrow nleq nless nlessgtr",
   "nlesssim nmid notin notsmallowns nparallel nprec npreccurlyeq nrightarrow nsim nsimeq",
   "nsqsubseteq nsqsupseteq nsubset nsubseteq nsucc nsucccurlyeq nsupset nsupseteq ntriangleleft",
   "ntrianglelefteq ntriangleright ntrianglerighteq nvDash nvdash nwarrow obar odot oequal",
   "ominus oplus oslash otimes overleftarrow overleftrightarrow parallel perp pitchfork pm prec",
   "precapprox preccurlyeq preceq precnapprox precnsim precsim propto questeq ratio rhd",
   "rightModels rightangle rightarrow rightarrowbar rightarrowtail rightassert rightharpoondown",
   "rightharpoonup rightleftarrows rightleftharpoons rightrightarrows rightsquigarrow",
   "rightthreetimes rightzigzagarrow risingdotseq rtimes scurel searrow setminus sim simeq",
   "simneqq slash smallin smallowns smile sqcap sqcup sqsubset sqsubseteq sqsubsetneq sqsupset",
   "sqsupseteq sqsupsetneq star stareq subset subseteq subseteqq subsetneq subsetneqq succ",
   "succapprox succcurlyeq succeq succnapprox succnsim succsim supset supseteq supseteqq",
   "supsetneq supsetneqq swarrow therefore times to top triangle triangleeq triangleleft",
   "trianglelefteq triangleq triangleright trianglerighteq twoheaddownarrow twoheadleftarrow",
   "twoheadrightarrow twoheaduparrow unlhd unrhd uparrow updownarrow updownarrowbar updownarrows",
   "upharpoonleft upharpoonright uplus upuparrows vDash varisinobar varisins varlrtriangle",
   "varniobar varnis varpropto vartriangleleft vartriangleright vdash vee veebar veeeq wedge",
   "wedgeq wr"]

end TankArena.Host.Formula
