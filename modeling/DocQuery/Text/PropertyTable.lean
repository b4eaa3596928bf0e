/-!
# Properties of characters: the tables

For each property all code points in order, as alternating runs: `N` without the property, `Y` with
it, each with the number of code points unless it is one.
-/

set_option autoImplicit false

namespace DocQuery

/-- Characters whose image is mirrored in text from right to left. -/
def bidiMirroredRuns : List String := [
  "N40Y2N18YNYN28YNYN29YNYN45YN15YN3710Y4N1885Y2N2460Y2N10Y2N54Y2N14Y2N177YN192Y4N3Y6N3YN3Y2N3Y4N",
  "Y4NYNYN4Y9N5YNY18N5Y4N9Y2NYNY8NY32N2Y4N5YN9Y2N2Y19N5Y2N9Y5N2Y2N4Y24N2Y16N8Y4N20Y2N7Y2N1085Y14",
  "N74YN2Y4NY2NY3N5Y4N5Y3N3Y14N403Y22N2Y6NY14N8YN7Y6N3YN4Y5NY2N2Y5N4YNY3N2Y2N10Y6N2Y2N12Y19NY4N2Y",
  "NYN2YNY4N5Y2N6Y3N24Y2N11Y2N4Y4NY2N2Y2N4Y43N2Y8NY40N5YNYN3Y5N5Y3N4YN3Y5NYN256YN515Y4N3Y2NY2N14",
  "Y2N2Y10N43Y8N427Y10N2Y8N52797Y6N5Y2N162Y2N18YNYN28YNYN29YNYNY2NY2N55159YN57YN57YN57YN57Y",
  "N993340"]

/-- Marks that change another character. -/
def diacriticRuns : List String := [
  "N94YNYN71YN6YN4YN2Y2N503Y159NY8N5Y6N17Y2N4YN9Y2N253Y5N209YN55Y45NYNY2NY2NYN131Y8N4Y2N134Y2N4Y2",
  "N3Y3N67Y27N91Y11N58Y11N34Y2N126Y8N41Y10N16Y28N61YN16YN3Y4N28YN74YN16YN110YN16YN110YN16YN47Y3",
  "N60YN16YN7YN119YN110YN16YN110YN16YN109Y2N16YN124YN111YN12Y6NYN107YN13Y5N75Y2N27YNYNYN4Y2N66Y3N",
  "Y2N62YN112YNY2N40Y2N4Y5N25Y7NYN10Y2N705Y3N948Y2N30YN148Y11N9YN347Y3N292YN20Y8N2YN48Y15N2Y11",
  "N104YN15YN38Y9N54Y2N58YN11Y2N66Y2N64Y6N82Y25N4YN6YN2Y3N50Y63N48Y36N5Y12N37Y11N445YNY3N11Y3N13",
  "Y3N13Y3N13Y2N3312Y3N317YN506Y6N105Y4N95YN30066YN12Y2NYN28Y2N82Y2N14Y34N102Y3N109Y2N12YN37YN151",
  "YN27Y18N57Y4N36YN95YN12YN36YN149Y3N65Y4N51YN100Y5N9Y3N128Y2N20272YN769Y16N270YNYN47YN45Y2N67Y",
  "N764YN1183Y6NY42NY9N637Y3N4YN165Y2N571Y6N38YN26Y5N399Y3N70Y11N49Y4N192YN41YN72Y2N120Y2N62YN76Y",
  "N9Y3N104Y2N178Y2N80Y2N16YN24Y7N3Y5N89Y3NY2N13Y2N95YN3YN123Y2N251Y2N126YN118Y2N115YN269Y2N258Y2",
  "N4YN156YN83YN18YN81YN421YN258YNY2N81YN425Y2N23YN5356Y15N11481YN2496Y5N59Y7N564Y2N546Y17N80Y2",
  "N16382Y4NY7NY2N7937Y46N2Y23N544Y3N3Y6N8Y8N2Y7N30Y4N3714Y62N194Y7N375YN61Y4N766Y2N736Y7N109Y3N",
  "Y3N988853"]

/-- Characters that may be shown as pictures. -/
def emojiRuns : List String := [
  "N35YN6YN5Y10N111YN4YN8077YN12YN216YN22YN90Y6N15Y2N367Y2N12YN166YN25Y11N4Y3N199YN231Y2N10YN9Y",
  "N58Y4NY5N9YN2YN2Y2N2YN4YN2YNY2N2YN3YN3Y2N8Y3N5YNYN5Y12N11Y2N2YNY2NYN18YN2Y2N18Y6NYNY2N3Y2N5YN2",
  "Y2N4Y2N11Y2N5Y2N2YN5Y2NYNY2N20Y2N5Y6NY4N2YN4YN2YN2Y6NYN2YNYNYN6YN3YN6YN10Y2N15YN2YN4YNYN4Y3NY",
  "N11Y2N48Y3N9YN14YN14YN372Y2N463Y3N19Y2N51YN4YN1242YN12YN601YNYN114026YN202YN160Y2N12Y2N14YN2",
  "Y10N75Y26NY2N23YN20YN2Y9N21Y2N174Y34N2Y112N2Y2NY3N2Y83N2Y3NY263NY63N11Y6NY24N7Y2N2Y8N12YN2Y4N2",
  "YN4Y2N13Y2N2YN8Y2N9YN5Y3N12Y3N8Y3N2YNYN4YN6YN3YN6Y86N48Y70N5Y8N2Y3N4Y10N3YNY2N3YN2Y10N227Y12N4",
  "YN283Y47NY10NY185N112Y13N3Y10N5Y56N7Y15N2Y11N6Y9N984327"]

/-- Pictures that take a skin tone. -/
def emojiModifierBaseRuns : List String := [
  "N9757YN219YN16Y4N117879YN60Y3N2YN2Y3N117Y2N2Y11N21Y19N3YN4Y3NY3N7YNYN24YN201Y2N4YN21YN4Y2N174",
  "Y3N3Y5N83YN16Y3N9YN11YN575YN2YN8Y8N6YN9Y10N2Y3N56YN61Y2NY2NYN17Y3NY13N229Y3N42Y9N984327"]

/-- Characters shown as pictures unless told otherwise. -/
def emojiPresentationRuns : List String := [
  "N8986Y2N205Y4N3YN2YN521Y2N21Y2N50Y12N43YN19YN13YN8Y2N17Y2N5Y2N8YN5YN21YN7Y2NYN4YN2YN7YN4Y2N28Y",
  "N35YNYN4Y3NYN61Y3N24YN14YN859Y2N51YN4YN115886YN202YN190YN2Y10N75Y26NYN24YN20YN2Y5NY3N21Y2N174",
  "Y33N12Y9NY70NY22N12Y43N4Y5N12Y17N3YN3Y71NYNY187N2Y63N13Y4NY24N18YN26Y2N13YN86Y85N48Y70N6YN3Y3",
  "N2Y3N4Y4N11Y2N7Y9N227Y12N4YN283Y47NY10NY185N112Y13N3Y10N5Y56N7Y15N2Y11N6Y9N984327"]

/-- Pictographs, and code points set aside for them. -/
def extendedPictographicRuns : List String := [
  "N169YN4YN8077YN12YN216YN22YN90Y6N15Y2N367Y2N12YN95YN70YN25Y11N4Y3N199YN231Y2N10YN9YN58Y4NY6N",
  "Y12NY114N10Y118N2Y11NYNYN6YN3YN6YN10Y2N15YN2YN4YNYN4Y3NYN11Y5N45Y3N9YN14YN14YN372Y2N463Y3N19Y2",
  "N51YN4YN1242YN12YN601YNYN114022Y256N13Y3N31YN60Y6N12Y2N14YN2Y10N18Y57N27Y15N10YN20YN2Y9NY4N9",
  "Y434N5Y318N8Y266N48Y128N116Y12N85Y43N12Y4N56Y8N10Y6N40Y8N30Y4N10Y4N2Y62N12Y47NY10NY441N256",
  "Y1022N983042"]

/-- Characters that lengthen the one in front. -/
def extenderRuns : List String := [
  "N183YN536Y2N878YN441YN630YN137YN89YN752YN127YN2371YN56YN611YN398YN68YN5001YN43Y5N103Y2N93Y3",
  "N28438YN1526YN962YN22YN137YN108YN21Y2N21627YN2064Y2N1483YN27YN4YN1223YN293YN116Y2N498Y3N1231Y",
  "N20649Y2N1180Y2NYN29016Y2N1201YN852Y3N988857"]

/-- Marks that join the letters around them. -/
def graphemeLinkRuns : List String := [
  "N2381YN127YN127YN127YN127YN127YN127YN127YN109Y2N16YN124YN111YN127YN201YN180Y2N1753Y2N30YN157Y",
  "N653YN227YN101Y2N70Y2N4491YN31366YN37YN151YN142YN108YN309YN246YN24145YN1542YN41YN14YN57YN121Y2",
  "N139YN116YN180YN98YN128Y3N113YN127YN252YN127YN118YN116YN269YN259Y2N161YN83YN18YN81YN421YN260Y2",
  "N81YN425Y2N16876YN1023696"]

/-- Alphabetic characters that are neither letters nor letter numbers. -/
def otherAlphabeticRuns : List String := [
  "N837YN29Y13N576Y14NYNY2NY2NYN72Y11N48Y13NY7N16YN101Y7N4Y4N2Y2N4YN35YN30Y16N102Y11N101Y2N3Y9NY3",
  "NY4N106YN60Y12N3Y7N6Y20N54Y2N2Y15NY2N5Y3N10Y2N29Y3N58Y7N2Y2N2Y2N10YN10Y2N29Y3N58Y5N4Y2N2Y2N4Y",
  "N30Y2N3YN11Y3N58Y8NY3NY2N21Y2N22Y3N4Y3N58Y7N2Y2N2Y2N9Y2N10Y2N30YN59Y5N3Y3NY3N10YN40Y5N57Y7NY3N",
  "Y3N8Y2N11Y2N29Y3N58Y7NY3NY3N8Y2N11Y2N15YN12Y4N58Y7NY3NY3N10YN10Y2N29Y3N75Y6NYNY8N18Y2N61YN2Y7",
  "N18YN99YN2Y6NY2N16YN163Y19N9Y11NY36N110Y12NYN2Y4N23Y4N4Y3NY3N2Y7N3Y4N13Y12NYN10Y4N1652Y2N30Y2",
  "N30Y2N30Y2N66Y19N188Y2N34YN118Y12N4Y9N222Y5N57Y10N2Y20N74Y2N11Y3N49Y5N48Y15N60Y3N30Y9N2Y2N57",
  "Y11N50Y19N412Y34N1729Y52N2294Y32N30836Y8N34Y2N354YN8YN23Y5N88Y2N50Y16NYN57YN38Y5N28Y12N45Y4N48",
  "Y12N37YN67Y14N12YN8Y2N45Y3N50YNY3N2Y2N5YN44Y5N5YN237Y8N20275YN2135Y5N1670Y3NY2N5Y4N788Y4N65Y",
  "N321Y2N79YN259Y3N53Y14N45Y2N11Y3N45Y9N9YN61Y3N36Y12N18Y2N57Y3N48Y13N14Y2N92Y9N2YN6YN2YN157Y10",
  "N23Y4N58Y7N2Y2N2Y2N10YN10Y2N84Y9NYN2YNY4NY2N103Y13NY3N106Y18N237Y7N2Y7N29Y2N82Y15NYN106Y11N103",
  "Y14N257Y13N247Y6NY2N2Y2N3YNYN142Y7N2Y6N4YN28Y10N42Y5NY4N18Y11N46Y14N407Y8NY7N83Y22NY14N122Y6N3",
  "YNY2NY3NYN3YN66Y5NY2NY4N348Y4N9Y2NYN48Y7N3Y3N16861Y17N3616YNY55N7Y4N93Y2N19628YN9057Y7NY17N2Y7",
  "NY2NY5N100YN2231YN2024Y26N6Y26N6Y26N986742"]

/-- Characters that attach to the one in front, though they are no nonspacing or enclosing marks. -/
def otherGraphemeExtendRuns : List String := [
  "N2494YN24YN358YN24YN102YN24YN232YNYN4Y2NY2N9Y2N103YN24YN119YN15YN2357YN30YN1024YN5YNYN5Y2N101Y",
  "N71Y2N1048YN4129Y2N31011YN108YN21981Y2N4640YN116YN264YN14YN9YN96YN9YN2YNY3N5YN224YN12YN241Y",
  "N262YN633YN12YN1539YN20654Y2N24947Y2N6Y6N798381Y96N196480"]

/-- Mathematical characters that are no mathematical symbols. -/
def otherMathRuns : List String := [
  "N94YN881Y3N2YN26Y2N2Y2N7200YN27Y3N11YN32Y4N24Y2N14Y2N65Y13N4YN3Y2N4Y5N18YN4YN2Y10NYN3Y5N6YN3Y2",
  "N2Y2NY3NY6N3Y4N5Y5N75Y5N2Y4NY2NY2NYNY5N2Y2N4Y2N4Y18N2Y2NYNY7NYN6Y2N290Y4N168Y2NYN24YN17YN445Y2",
  "N12Y9N5Y5N5Y2N2Y2N3Y5N14YNYN2Y6N24Y2N57YNYN29Y4N9Y2N342Y2N31Y10N403Y22N63Y4N32Y2N54371YNYN4Y",
  "N211YNYN54465Y85NY71NY2N2YN2Y2N2Y4NY12NYNY7NY65NY4N2Y8NY7NY28NY4NY5NYN3Y7NY340N2Y25NY25NY31N",
  "Y25NY31NY25NY31NY25NY31NY25NY8N2Y50N5632Y4NY27NY2NYN2YNY10NY4NYNYN6YN4YNYNYNY3NY2NYN2YNYNYNYNY",
  "NY2NYN2Y4NY7NY4NY4NYNY10NY17N5Y3NY5NY17N987460"]

/-- Characters that end a sentence. -/
def sentenceTerminalRuns : List String := [
  "N33YN12YN16YN1353YN147Y3N180YN43Y3N246YN61YNYN3Y2N293Y2N1764Y2N790YN4Y2N773YN198Y2N157Y2N45YN5",
  "YN314Y2N354Y4N162Y2N10Y2N2Y2N29Y3N187Y2N65Y2N932YN23Y2N9Y3N3247Y3N306YN13YN22Y2N429YN29948Y",
  "N270Y2N227YN3YN382Y2N86Y2N95YN152Y2N147Y3N144Y2N249YN21030YN2Y2N59YN3Y2N169YN12YN16YN65YN2804",
  "Y2N1277Y5N44Y4N189Y2N117Y4N127Y3N129Y2N6YN16Y2N88Y2NY2N108YN298Y2N117Y2N373Y2N5Y15N105Y2N249Y3",
  "N517YNYN251Y2N87Y2N420Y2N692Y2N74Y2N19241Y2N133YN65Y2N11YN553Y2N296YN19974YN7656YN992631"]

/-- Letters whose dot goes when a mark is put above. -/
def softDottedRuns : List String := [
  "N105Y2N196YN281YN30YN52YN20YN320YN98YNYN6409YN51YN13YN3YN132YN157YN421YN214Y2N2866YN108453Y2",
  "N50Y2N50Y2N50Y2N50Y2N50Y2N50Y2N50Y2N50Y2N50Y2N50Y2N50Y2N50Y2N2182YN305Y2N26YN991127"]

/-- Punctuation at the end of a unit of text. -/
def terminalPunctuationRuns : List String := [
  "N33YN10YNYN11Y2N3YN830YN8YN513YN57YN72YN14YNY3N180YN43Y11NYN235Y2N54Y6NY8N31YN261Y2N1268Y2N172",
  "YN4Y6N311Y2N789Y8N773YN124Y3N71Y2N157Y3N3YN39Y4N2Y2N314Y2N354Y4N162Y2N10Y2NY3N29Y3N187Y5N62Y2",
  "N932YN23Y2N9Y3N3247Y3N306YN13YN4YN10YNY2N3Y2N428Y2N29947Y2N269Y3N227Y5N382Y2N86Y2N95YN151Y3",
  "N147Y3N127YN16Y2N249YN21030YN2Y2N57Y3NY4N169YN10YNYN11Y2N3YN65YN2YN1082YN48YN1158YN199YN310Y2",
  "N152Y6N68Y6N89Y4N952Y5N44Y4N189Y7N112Y4N127Y3N129Y2N6YN16Y2N88Y5N108YN298Y2N117Y3N12Y2N358Y4N3",
  "Y15N105Y2N249Y3N517YNYN251Y2N87Y2N4Y2N414Y3N45YN645Y2N74Y2N1323Y5N17913Y2N133YN65Y3N10YN553Y2",
  "N295Y2N19974YN7655Y4N992629"]

/-- Characters that differ from their lower case. -/
def changesWhenLowercasedRuns : List String := [
  "N65Y26N101Y23NY7N33YNYNYNYNYNYNYNYNYNYNYNYNYNYNYNYNYNYNYNYNYNYNYNYNYNYNYNYN2YNYNYNYNYNYNYNYN2Y",
  "NYNYNYNYNYNYNYNYNYNYNYNYNYNYNYNYNYNYNYNYNYNYNY2NYNYN3Y2NYNY2NY3N2Y4NY2NY3N3Y2NY2NYNYNY2NYN2YN",
  "Y2NY3NYNY2N3YN7Y2NY2NY2NYNYNYNYNYNYNYNYN2YNYNYNYNYNYNYNYNYN2Y2NYNY3NYNYNYNYNYNYNYNYNYNYNYNYNYN",
  "YNYNYNYNYNYNYNYNYNYNYNYNYNYNYNYN7Y2NY2N2YNY4NYNYNYNYN289YNYN3YN8YN6YNY3NYNY2NY17NY9N35YN8YNYNY",
  "NYNYNYNYNYNYNYNYNYN5YN2YNY2N2Y51N48YNYNYNYNYNYNYNYNYNYNYNYNYNYNYNYNYN9YNYNYNYNYNYNYNYNYNYNYNYN",
  "YNYNYNYNYNYNYNYNYNYNYNYNYNYNYNY2NYNYNYNYNYNYN2YNYNYNYNYNYNYNYNYNYNYNYNYNYNYNYNYNYNYNYNYNYNYNYN",
  "YNYNYNYNYNYNYNYNYNYNYNYNYNYNYNYNYNYNYNYNYNYNYNYN2Y38N2889Y38NYN5YN722Y86N2195YN6Y43N2Y3N320YNY",
  "NYNYNYNYNYNYNYNYNYNYNYNYNYNYNYNYNYNYNYNYNYNYNYNYNYNYNYNYNYNYNYNYNYNYNYNYNYNYNYNYNYNYNYNYNYNYNY",
  "NYNYNYNYNYNYNYNYNYNYNYNYNYNYNYNYNYNYNYNYNYNYNYNYNYNYN9YNYNYNYNYNYNYNYNYNYNYNYNYNYNYNYNYNYNYNYN",
  "YNYNYNYNYNYNYNYNYNYNYNYNYNYNYNYNYNYNYNYNYNYNYNYNYNYNYNYNYN9Y8N8Y6N10Y8N8Y8N8Y6N11YNYNYNYN8Y8",
  "N24Y8N8Y8N8Y8N8Y5N11Y5N11Y4N12Y5N11Y5N297YN3Y2N6YN45Y16N19YN818Y26N1840Y48N48YNY3N2YNYNYNY4NY",
  "N2YN8Y3NYNYNYNYNYNYNYNYNYNYNYNYNYNYNYNYNYNYNYNYNYNYNYNYNYNYNYNYNYNYNYNYNYNYNYNYNYNYNYNYNYNYNYN",
  "YNYNYNYNYNYN8YNYN4YN31053YNYNYNYNYNYNYNYNYNYNYNYNYNYNYNYNYNYNYNYNYNYNYN19YNYNYNYNYNYNYNYNYNYNY",
  "NYNYNYN135YNYNYNYNYNYNYN3YNYNYNYNYNYNYNYNYNYNYNYNYNYNYNYNYNYNYNYNYNYNYNYNYNYNYNYNYNYNYN10YNYN",
  "Y2NYNYNYNYN4YNYN2YNYN3YNYNYNYNYNYNYNYNYNYNY5NY5NYNYNYNYNYNYNYNY4NYNY2N3YN5YNYNYNYN24YN22315Y26",
  "N1221Y40N136Y36N156Y11NY15NY7NY2N1770Y51N157Y22N2874Y32N21888Y32N31392Y34N988894"]

/-- Characters that differ from their upper case. -/
def changesWhenUppercasedRuns : List String := [
  "N97Y26N58YN41Y24NY8NYNYNYNYNYNYNYNYNYNYNYNYNYNYNYNYNYNYNYNYNYNYNYNYNYNYNYNYN2YNYNYNYNYNYNYNY2N",
  "YNYNYNYNYNYNYNYNYNYNYNYNYNYNYNYNYNYNYNYNYNYNYN2YNYNY3N2YNYN2YN3YN5YN2YN3Y3N2YN2YNYNYN2YN4YN2Y",
  "N3YNYN2YN3YNYN5Y2NY2NY2NYNYNYNYNYNYNYNY2NYNYNYNYNYNYNYNYNY2NY2NYN3YNYNYNYNYNYNYNYNYNYNYNYNYNYN",
  "YNYNYNYNYNYN3YNYNYNYNYNYNYNYNYN8YN2Y2NYN4YNYNYNYNY6NY2NYNY2N3Y2NY4NY5N2YNY2N2YN7YN2YNY2N3Y6N5Y",
  "N10Y2N166YN43YNYN3YN3Y3N18YN27Y35NY2N3Y3NYNYNYNYNYNYNYNYNYNYNYNY5NYN2YN2YN52Y48NYNYNYNYNYNYNYN",
  "YNYNYNYNYNYNYNYNYNYN9YNYNYNYNYNYNYNYNYNYNYNYNYNYNYNYNYNYNYNYNYNYNYNYNYNYNYN2YNYNYNYNYNYNY2NYNY",
  "NYNYNYNYNYNYNYNYNYNYNYNYNYNYNYNYNYNYNYNYNYNYNYNYNYNYNYNYNYNYNYNYNYNYNYNYNYNYNYNYNYNYNYNYNYNY",
  "N49Y39N2888Y43N2Y3N760Y6N2178Y9NYN238YN3YN16YN114YNYNYNYNYNYNYNYNYNYNYNYNYNYNYNYNYNYNYNYNYNYNY",
  "NYNYNYNYNYNYNYNYNYNYNYNYNYNYNYNYNYNYNYNYNYNYNYNYNYNYNYNYNYNYNYNYNYNYNYNYNYNYNYNYNYNYNYNYNYNYNY",
  "NYNYNYNYNY7N5YNYNYNYNYNYNYNYNYNYNYNYNYNYNYNYNYNYNYNYNYNYNYNYNYNYNYNYNYNYNYNYNYNYNYNYNYNYNYNYNY",
  "NYNYNYNYNYNYNY9N8Y6N10Y8N8Y8N8Y6N10Y8N8Y8N8Y14N2Y53NY2N4YNYN3Y3NY2N4YN3Y4N2Y2N8Y8N10Y3NY2N4Y",
  "N337YN33Y16N4YN843Y26N1862Y48NYN3Y2NYNYNYN6YN2YN10YNYNYNYNYNYNYNYNYNYNYNYNYNYNYNYNYNYNYNYNYNYN",
  "YNYNYNYNYNYNYNYNYNYNYNYNYNYNYNYNYNYNYNYNYNYNYNYNYNYNYNYN8YNYN4YN12Y38NYN5YN30995YNYNYNYNYNYNYN",
  "YNYNYNYNYNYNYNYNYNYNYNYNYNYNYNYN19YNYNYNYNYNYNYNYNYNYNYNYNYNYN135YNYNYNYNYNYNYN3YNYNYNYNYNYNYN",
  "YNYNYNYNYNYNYNYNYNYNYNYNYNYNYNYNYNYNYNYNYNYNYNYN10YNYN2YNYNYNYNYN4YN4YNY2N2YNYNYNYNYNYNYNYNYNY",
  "N11YNYNYNYNYNYNYNYN4YNYN2YN3YN5YNYNYN26YN860YN28Y80N20288Y7N12Y5N1065Y26N1229Y40N136Y36N155Y11",
  "NY15NY7NY2N1795Y51N125Y22N2874Y32N21888Y32N31394Y34N988860"]

/-- Characters that differ from their title case. -/
def changesWhenTitlecasedRuns : List String := [
  "N97Y26N58YN41Y24NY8NYNYNYNYNYNYNYNYNYNYNYNYNYNYNYNYNYNYNYNYNYNYNYNYNYNYNYNYN2YNYNYNYNYNYNYNY2N",
  "YNYNYNYNYNYNYNYNYNYNYNYNYNYNYNYNYNYNYNYNYNYNYN2YNYNY3N2YNYN2YN3YN5YN2YN3Y3N2YN2YNYNYN2YN4YN2Y",
  "N3YNYN2YN3YNYN4YNY2NY2NYNYNYNYNYNYNYNYNY2NYNYNYNYNYNYNYNYNY3NYNYN3YNYNYNYNYNYNYNYNYNYNYNYNYNYN",
  "YNYNYNYNYNYN3YNYNYNYNYNYNYNYNYN8YN2Y2NYN4YNYNYNYNY6NY2NYNY2N3Y2NY4NY5N2YNY2N2YN7YN2YNY2N3Y6N5Y",
  "N10Y2N166YN43YNYN3YN3Y3N18YN27Y35NY2N3Y3NYNYNYNYNYNYNYNYNYNYNYNY5NYN2YN2YN52Y48NYNYNYNYNYNYNYN",
  "YNYNYNYNYNYNYNYNYNYN9YNYNYNYNYNYNYNYNYNYNYNYNYNYNYNYNYNYNYNYNYNYNYNYNYNYNYN2YNYNYNYNYNYNY2NYNY",
  "NYNYNYNYNYNYNYNYNYNYNYNYNYNYNYNYNYNYNYNYNYNYNYNYNYNYNYNYNYNYNYNYNYNYNYNYNYNYNYNYNYNYNYNYNYNY",
  "N49Y39N3696Y6N2178Y9NYN238YN3YN16YN114YNYNYNYNYNYNYNYNYNYNYNYNYNYNYNYNYNYNYNYNYNYNYNYNYNYNYNYN",
  "YNYNYNYNYNYNYNYNYNYNYNYNYNYNYNYNYNYNYNYNYNYNYNYNYNYNYNYNYNYNYNYNYNYNYNYNYNYNYNYNYNYNYNYNYNYNY7",
  "N5YNYNYNYNYNYNYNYNYNYNYNYNYNYNYNYNYNYNYNYNYNYNYNYNYNYNYNYNYNYNYNYNYNYNYNYNYNYNYNYNYNYNYNYNYNYN",
  "YNY9N8Y6N10Y8N8Y8N8Y6N10Y8N8Y8N8Y14N2Y8N8Y8N8Y8N8Y5NY2N6YN3Y3NY2N8Y4N2Y2N8Y8N10Y3NY2N342YN33",
  "Y16N4YN843Y26N1862Y48NYN3Y2NYNYNYN6YN2YN10YNYNYNYNYNYNYNYNYNYNYNYNYNYNYNYNYNYNYNYNYNYNYNYNYNYN",
  "YNYNYNYNYNYNYNYNYNYNYNYNYNYNYNYNYNYNYNYNYNYNYNYN8YNYN4YN12Y38NYN5YN30995YNYNYNYNYNYNYNYNYNYNYN",
  "YNYNYNYNYNYNYNYNYNYNYNYN19YNYNYNYNYNYNYNYNYNYNYNYNYNYN135YNYNYNYNYNYNYN3YNYNYNYNYNYNYNYNYNYNYN",
  "YNYNYNYNYNYNYNYNYNYNYNYNYNYNYNYNYNYNYNYN10YNYN2YNYNYNYNYN4YN4YNY2N2YNYNYNYNYNYNYNYNYNYN11YNYNY",
  "NYNYNYNYNYN4YNYN2YN3YN5YNYNYN26YN860YN28Y80N20288Y7N12Y5N1065Y26N1229Y40N136Y36N155Y11NY15NY7N",
  "Y2N1795Y51N125Y22N2874Y32N21888Y32N31394Y34N988860"]

/-- Characters that differ from what they fold to. -/
def changesWhenCasefoldedRuns : List String := [
  "N65Y26N90YN10Y23NY8N32YNYNYNYNYNYNYNYNYNYNYNYNYNYNYNYNYNYNYNYNYNYNYNYNYNYNYNYN2YNYNYNYNYNYNYNY",
  "NY2NYNYNYNYNYNYNYNYNYNYNYNYNYNYNYNYNYNYNYNYNYNYNY2NYNYNYNY2NYNY2NY3N2Y4NY2NY3N3Y2NY2NYNYNY2NY",
  "N2YNY2NY3NYNY2N3YN7Y2NY2NY2NYNYNYNYNYNYNYNYN2YNYNYNYNYNYNYNYNYN2Y2NYNY3NYNYNYNYNYNYNYNYNYNYNYN",
  "YNYNYNYNYNYNYNYNYNYNYNYNYNYNYNYNYNYN7Y2NY2N2YNY4NYNYNYNYN246YN42YNYN3YN8YN6YNY3NYNY2NY17NY9N22",
  "YN12Y3N3Y2NYNYNYNYNYNYNYNYNYNYNYNYNY2N2Y2NYNY2N2Y51N48YNYNYNYNYNYNYNYNYNYNYNYNYNYNYNYNYN9YNYNY",
  "NYNYNYNYNYNYNYNYNYNYNYNYNYNYNYNYNYNYNYNYNYNYNYNYNY2NYNYNYNYNYNYN2YNYNYNYNYNYNYNYNYNYNYNYNYNYNY",
  "NYNYNYNYNYNYNYNYNYNYNYNYNYNYNYNYNYNYNYNYNYNYNYNYNYNYNYNYNYNYNYNYNYN2Y38N48YN2840Y38NYN5YN810Y6",
  "N2178Y10N6Y43N2Y3N320YNYNYNYNYNYNYNYNYNYNYNYNYNYNYNYNYNYNYNYNYNYNYNYNYNYNYNYNYNYNYNYNYNYNYNYNY",
  "NYNYNYNYNYNYNYNYNYNYNYNYNYNYNYNYNYNYNYNYNYNYNYNYNYNYNYNYNYNYNYNYNYNYNYNYNYNYN5Y2N2YNYNYNYNYNYN",
  "YNYNYNYNYNYNYNYNYNYNYNYNYNYNYNYNYNYNYNYNYNYNYNYNYNYNYNYNYNYNYNYNYNYNYNYNYNYNYNYNYNYNYN9Y8N8Y6",
  "N10Y8N8Y8N8Y6N11YNYNYNYN8Y8N16Y48N2Y3N2Y6N5Y3N2Y6N11Y4N12Y5N5Y3N2Y6N297YN3Y2N6YN45Y16N19YN818",
  "Y26N1840Y48N48YNY3N2YNYNYNY4NYN2YN8Y3NYNYNYNYNYNYNYNYNYNYNYNYNYNYNYNYNYNYNYNYNYNYNYNYNYNYNYNYN",
  "YNYNYNYNYNYNYNYNYNYNYNYNYNYNYNYNYNYNYNYNYN8YNYN4YN31053YNYNYNYNYNYNYNYNYNYNYNYNYNYNYNYNYNYNYNY",
  "NYNYNYN19YNYNYNYNYNYNYNYNYNYNYNYNYNYN135YNYNYNYNYNYNYN3YNYNYNYNYNYNYNYNYNYNYNYNYNYNYNYNYNYNYNY",
  "NYNYNYNYNYNYNYNYNYNYNYN10YNYNY2NYNYNYNYN4YNYN2YNYN3YNYNYNYNYNYNYNYNYNYNY5NY5NYNYNYNYNYNYNYNY4N",
  "YNY2N3YN5YNYNYNYN24YN890Y80N20288Y7N12Y5N1033Y26N1221Y40N136Y36N156Y11NY15NY7NY2N1770Y51N157",
  "Y22N2874Y32N21888Y32N31392Y34N988894"]

end DocQuery
