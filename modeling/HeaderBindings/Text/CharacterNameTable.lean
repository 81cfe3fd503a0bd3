/-!
# The names of characters

Every name and every alias of a character except those that follow from its code point: the
ideographs and the Hangul syllables.
-/
namespace HeaderBindings.Text

/-- The names in alphabetical order, one after the other. In front of each stands a mark for the
number of characters that it has in common with the one before: U+0100 for none, U+0101 for one, and
so on. -/
def characterNameTable : List String := [
  "ĀABACUSāC CURRENTĂCORDIONĄUNT OFĂKăNOWLEDGEĂTIVATE ARABIC FORM SHAPINGĉSYMMETRIC SWAPPING",
  "ĂUTE ACCENTćNGLEāDDRESSED TO THE SUBJECTĂHESIVE BANDAGEĂI SHAKTIĂLAM ALIF LENGTHENER",
  "ĆCAPITAL LETTER ALIFĕBAĖHEĕCHIĕDAALIĖHAĕEĕFAĕGAĖBEĕHAĕIĕJIIMĕKAFĖHAĖPOĕLAAMĕMIIMĕNHAĖUNĖYAĕO",
  "ĕPEĕQAAFĕRAĕSHAĖINNYIIYHEĕTUĕUĕVAĕWAWĕYAĖHEĕZALćONSONANT MODIFIERĆDIGIT EIGHTČFIVEčOURČNINE",
  "ČONEČSEVENčIXČTHREEčWOČZEROĆGEMINATE CONSONANT MODIFIERčION MARKĆHAMZA",
  "ĆINITIAL EXCLAMATION MARKĎQUESTION MARKĆNASALIZATION MARKćUKTAĆSMALL LETTER ALIFēBAĔHEēCHI",
  "ēDAALIĔHAēEēFAēGAĔBEēHAēIēJIIMēKAFĔHAĔPOēLAAMēMIIMēNHAĔUNĔYAēOēPEēQAAFēRAēSHAĔINNYIIYHEēTUēU",
  "ēVAēWAWēYAĔHEēZALĆVOWEL LENGTHENERĂMETOSăISSION TICKETSĂULTāEGEAN CHECK MARK",
  "ćDRY MEASURE FIRST SUBUNITćLIQUID MEASURE FIRST SUBUNITćMEASURE SECOND SUBUNITďTHIRD SUBUNIT",
  "ćNUMBER EIGHTē HUNDREDĔTHOUSANDēYĔ THOUSANDĎFIFTYē THOUSANDĐVEĒ HUNDREDēTHOUSANDďORTY",
  "ē THOUSANDĐURĒ HUNDREDēTHOUSANDĎNINEĒ HUNDREDēTHOUSANDĒTYĔ THOUSANDĎONEđ HUNDREDĒTHOUSAND",
  "ĎSEVENē HUNDREDĔTHOUSANDēTYĕ THOUSANDďIXđ HUNDREDĒTHOUSANDđTYē THOUSANDĎTENđ THOUSANDďHIRTY",
  "Ĕ THOUSANDĐREEē HUNDREDĔTHOUSANDďWENTYĔ THOUSANDĐOđ HUNDREDĒTHOUSANDćWEIGHT BASE UNIT",
  "ĎFIRST SUBUNITďOURTH SUBUNITĎSECOND SUBUNITĎTHIRD SUBUNITĈORD SEPARATOR DOTĖLINEĂRIAL TRAMWAY",
  "āFGHANI SIGNāHOM CONSONANT SIGN MEDIAL LAĜIGATING RAěRAąDIGIT EIGHTċFIVEČOURċNINEċONEċSEVENČIX",
  "ċTHREEČWOċZEROąLETTER AčLTERNATE BAĖGAĖTAČBAčHAČCAčHAČDAčDAĎHAčHAČGAčHAČHAČJAčHAČKAčHAČLAčLA",
  "ČMAČNAčGAčNAčYAČPAčHAČRAČSAČTAčHAčTAĎHAąNUMBER TENčWENTYąSIGN KILLERĊRULAIĊSECTION",
  "ċMALL SECTIONĆYMBOL VIąVOWEL SIGN AđAđIđMđWĐEĐIđIĐOĐUđUāIRPLANEĈ ARRIVINGĉDEPARTURE",
  "āKTIESELSKABāLARM CLOCKĂCHEMICAL SYMBOL FOR AIRėLEMBICĘKALIĜ-2ĘUMėMALGAMėNTIMONY OREėQUA REGIA",
  "Ġ-2ěVITAEĠ-2ĚFORTISėRSENICėSHESėURIPIGMENTĖBATH OF MARYĞVAPOURSėISMUTH OREėLACK SULFURėORAXě-2",
  "Ĝ3ėRICKĖCADUCEUSĘLXĘPUT MORTUUMėINNABARėOPPER ANTIMONIATEĝOREėROCUS OF COPPERĦ-2ĠIRONĘUCIBLE",
  "Ğ-2ğ3ğ4ğ5ĖDAY-NIGHTėISSOLVEĞ-2ęTILLĖEARTHĖFIREĖGOLDėUMĖHALF DRAMěOUNCEėORSE DUNGĘURĖIRON ORE",
  "Ğ-2Ě-COPPER OREĖLEAD OREėODESTONEĖMARCASITEėERCURY SUBLIMATEħ-2Ĩ3ėONTHĖNIGHTĘTREĖOIL",
  "ĖPHILOSOPHERS SULFURėOT ASHESĘWDERĜED BRICKėRECIPITATEėURIFYĘTREFACTIONĖQUICK LIMEęNTESSENCE",
  "ĖREALGARĝ-2ĘGULUSĝ OF ANTIMONYĩ-2ġIRONĝ-2Ğ3Ğ4ĘTORTėOCK SALTğ-2ĖSAL-AMMONIACęTĚ OF ANTIMONY",
  "ĞCOPPER ANTIMONIATEėCEPTER OF JOVEėILVERėOAPėPIRITėTARRED TRIDENTĘRATUM SUPER STRATUMī-2",
  "ėUBLIMATE OF ANTIMONYģCOPPERģSALT OF ANTIMONYīCOPPERĞIONĘLFURĖTARTARĜ-2ėIN OREęCTUREėRIDENT",
  "ėUTTYĖURINEĖVERDIGRISėINEGARĝ OF ANTIMONYĝ-2Ğ3ĘTRIOLĝ-2ĖWATERĘXĂEF SYMBOLăMBICăRTĂIEN MONSTER",
  "ĂL AROUND-PROFILEĄEQUAL TOĂMăOST EQUAL OR EQUAL TOčTOď WITH CIRCUMFLEX ACCENT",
  "ĂTERNATE ONE-WAY LEFT WAY TRAFFICĈIVE KEY SYMBOLāMALGAMATION OR COPRODUCTĂBULANCE",
  "ĂERICAN FOOTBALLĂPERSANDăHORAāNATOLIAN HIEROGLYPH A001Ę2Ę3Ę4Ę5Ę6Ę7Ę8Ę9ė10ęAĘ1Ę2Ę3Ę4Ę5Ę6Ę7Ę8Ę9",
  "ė20Ę1Ę2Ę3Ę4Ę5Ę6ęAĘ7Ę8Ę9ė30Ę1Ę2Ę3Ę4Ę5Ę6Ę7Ę8Ę9ęAė40Ę1ęAĘ2Ę3Ę4Ę5ęAĘ6ęAęBĘ7Ę8Ę9ė50Ę1Ę2Ę3Ę4Ę5Ę6Ę7Ę8",
  "Ę9ė60Ę1Ę2Ę3Ę4Ę5Ę6ęAęBęCĘ7Ę8Ę9ė70Ę1Ę2Ę3Ę4Ę5Ę6Ę7Ę8Ę9ė80Ę1Ę2Ę3Ę4Ę5Ę6Ę7Ę8Ę9ė90Ę1Ę2Ę3Ę4Ę5Ę6Ę7ęAĘ8ęA",
  "Ę9Ė100ęAĘ1ęAĘ2ęAĘ3Ę4ęAęBęCĘ5ęAęBĘ6Ę7ęAęBęCĘ8Ę9ė10ęAęBĘ1Ę2Ę3Ę4Ę5ęAĘ6Ę7Ę8Ę9ė20Ę1Ę2Ę3Ę4Ę5ęAĘ6Ę7Ę8",
  "Ę9ė30Ę1Ę2Ę3Ę4Ę5ęAĘ6Ę7Ę8Ę9ė40Ę1Ę2Ę3Ę4Ę5Ę6Ę7Ę8Ę9ė50Ę1Ę2Ę3Ę4Ę5Ę6Ę7Ę8Ę9ė60Ę1Ę2Ę3Ę4Ę5Ę6Ę7Ę8Ę9ė70Ę1",
  "Ę2Ę3Ę4Ę5Ę6Ę7Ę8Ę9ė80Ę1Ę2Ę3Ę4Ę5Ę6Ę7Ę8Ę9ė90Ę1Ę2Ę3Ę4Ę5Ę6Ę7Ę8Ę9Ė200Ę1Ę2ęAęBĘ3Ę4Ę5Ę6Ę7ęAĘ8Ę9ęAė10Ę1",
  "Ę2Ę3Ę4Ę5ęAĘ6ęAĘ7Ę8Ę9ė20Ę1Ę2Ę3Ę4Ę5Ę6Ę7ęAĘ8Ę9ė30Ę1Ę2Ę3Ę4Ę5Ę6Ę7Ę8Ę9ė40Ę1Ę2Ę3Ę4Ę5Ę6Ę7Ę8Ę9ė50Ę1Ę2Ę3",
  "Ę4Ę5Ę6Ę7Ę8Ę9ė60Ę1Ę2Ę3Ę4Ę5Ę6Ę7ęAĘ8Ę9ė70Ę1Ę2Ę3Ę4Ę5Ę6Ę7Ę8Ę9ė80Ę1Ę2Ę3Ę4Ę5Ę6Ę7Ę8Ę9ęAė90Ę1Ę2Ę3Ę4ęAĘ5",
  "Ę6Ę7Ę8Ę9ęAĖ300Ę1Ę2Ę3Ę4Ę5Ę6Ę7Ę8Ę9ęAė10Ę1Ę2Ę3Ę4Ę5Ę6Ę7Ę8Ę9ė20Ę1Ę2Ę3Ę4Ę5Ę6Ę7Ę8Ę9ęAė30Ę1Ę2AęBęCĘ3Ę4",
  "Ę5Ę6ęAęBęCĘ7Ę8Ę9ė40Ę1Ę2Ę3Ę4Ę5Ę6Ę7Ę8Ę9ė50Ę1Ę2Ę3Ę4Ę5Ę6Ę7Ę8Ę9ęAė60Ę1Ę2Ę3Ę4ęAĘ5Ę6Ę7Ę8ęAĘ9ė70Ę1ęAĘ2",
  "Ę3Ę4Ę5Ę6Ę7Ę8Ę9ė80Ę1ęAĘ2Ę3 RA OR RIęAĘ4Ę5Ę6ęAĘ7Ę8Ę9ė90Ę1Ę2Ę3 EIGHTĘ4Ę5Ę6Ę7Ę8Ę9Ė400Ę1Ę2Ę3Ę4Ę5Ę6",
  "Ę7Ę8Ę9ė10 BEGIN LOGOGRAM MARKęA END LOGOGRAM MARKĘ1Ę2Ę3Ę4Ę5Ę6Ę7Ę8Ę9ė20Ę1Ę2Ę3Ę4Ę5Ę6Ę7Ę8Ę9ė30Ę1",
  "Ę2Ę3Ę4Ę5Ę6Ę7Ę8Ę9ė40Ę1Ę2Ę3Ę4Ę5Ę6Ę7Ę8Ę9ė50ęAĘ1Ę2Ę3Ę4Ę5Ę6Ę7ęAĘ8Ę9ė60Ę1Ę2Ę3Ę4Ę5Ę6Ę7Ę8Ę9ė70Ę1Ę2Ę3Ę4",
  "Ę5Ę6Ę7Ę8Ę9ė80Ę1Ę2Ę3Ę4Ę5Ę6Ę7Ę8Ę9ė90Ę1Ę2Ę3Ę4Ę5Ę6Ę7Ė501Ę2Ę3Ę4Ę5Ę6Ę7Ę8Ę9ė10Ę1Ę2Ę3Ę4Ę5Ę6Ę7Ę8Ę9ė20Ę1",
  "Ę2Ę3Ę4Ę5Ę6Ę7Ę8Ę9ė30ąMICAL HEARTĂCHORĂD WITH DOTĂGER SYMBOLăLEą WITH S INSIDEċUNDERBARăRY FACE",
  "ăSTROM SIGNăUISHED FACEĂKHĂTăENNA WITH BARSăICLOCKWISE CLOSED CIRCLE ARROWďONTOUR INTEGRAL",
  "ĎDOWNWARDS AND UPWARDS OPEN CIRCLE ARROWSĎGAPPED CIRCLE ARROWĎINTEGRATIONĎOPEN CIRCLE ARROW",
  "ĎTOP SEMICIRCLE ARROWďRIANGLE-HEADED BOTTOM U-SHAPED ARROWĞLEFT U-SHAPED ARROW",
  "ĞOPEN CIRCLE ARROWĞRIGHT U-SHAPED ARROWĞTOP U-SHAPED ARROWāPCĂL FUNCTIONAL SYMBOL ALPHA",
  "ě UNDERBARĖBACKSLASH BARĖCIRCLE BACKSLASHĝDIAERESISĝJOTĝSTARğILEĝUNDERBARėOMMA BAR",
  "ĖDEL DIAERESISĚSTILEĚTILDEęTA STILEĜUNDERBARėIAMOND UNDERBARėOWN CARET TILDEěSHOE STILE",
  "ěTACK JOTĠUNDERBARĚWARDS VANEĖEPSILON UNDERBARĖGREATER-THAN DIAERESISĖI-BEAMėOTAĚ UNDERBAR",
  "ĖJOT DIAERESISĚUNDERBARĖLEFT SHOE STILEĚWARDS VANEĖOMEGAě UNDERBARĖQUADĚ BACKSLASHěCIRCLEĜOLON",
  "ěDELĞTAĜIAMONDĝVIDEĜOWN CARETğWARDS ARROWěEQUALěGREATER-THANěJOTěLEFTWARDS ARROWĝSS-THAN",
  "ěNOT EQUALěQUESTIONěRIGHTWARDS ARROWěSLASHěUP CARETĝWARDS ARROWĘOTE QUADĜUNDERBARĖRHO",
  "ėIGHTWARDS VANEĖSEMICOLON UNDERBARėLASH BARėQUISH QUADėTAR DIAERESISĘILE TILDEĖTILDE DIAERESIS",
  "ĖUP CARET TILDEęSHOE JOTęTACK DIAERESISĞJOTĞOVERBARĘWARDS VANEĖZILDEĂOLLONăSTROPHE",
  "ĂPLICATION PROGRAM COMMANDăROACHES THE LIMITąXIMATELY BUT NOT ACTUALLY EQUAL TO",
  "ĎEQUAL OR EQUAL TOĔTOĖ OR THE IMAGE OFāQUARIUSāRABIC BASELINE ROUND DOTćCOMMAĈURLY DAMMAĒTAN",
  "čFATHAĒTANčKASRAĒTANćDAMMAČ ISOLATED FORMčMEDIAL FORMčWITH DOTČTANď ISOLATED FORMĉTE SEPARATOR",
  "ĈECIMAL SEPARATORĈISPUTED END OF AYAHĈOUBLE RIGHT ARROWHEAD ABOVEģ WITH DOTčD MADDA",
  "ćEMPTY CENTRE HIGH STOPĔLOW STOPĈND OF AYAHĎTEXT MARKćFATHAČ ISOLATED FORMčMEDIAL FORM",
  "čWITH DOT ABOVEĒRINGĒTWO DOTSČTANď ISOLATED FORMĈIVE POINTED STARĈOOTNOTE MARKERĈULL STOP",
  "ćHALF MADDA OVER MADDAĉMZA ABOVEčBELOWćINVERTED DAMMAćKASRAČ ISOLATED FORMčMEDIAL FORM",
  "čWITH DOT BELOWČTANď ISOLATED FORMćLARGE CIRCLE BELOWčROUND DOT ABOVEėBELOW",
  "ėINSIDE CIRCLE BELOWĈEFT ARROWHEAD ABOVEĖBELOWĉTTER AEďFRICAN FEHĖNOONĖQAF",
  "ę WITH THREE DOTS ABOVEďINđ FINAL FORMĒINITIAL FORMēSOLATED FORMĒMEDIAL FORM",
  "ĒWITH THREE DOTS ABOVEĢBELOWĢPOINTING DOWNWARDS ABOVEĘWO DOTS ABOVEĠVERTICALLY ABOVEďLEF",
  "Ē FINAL FORMēISOLATED FORMēMAKSURAĚ FINAL FORMěISOLATED FORMēWASLAĘ FINAL FORMęISOLATED FORM",
  "ĔITH ATTACHED BOTTOM RIGHT KASRAĳ AND DOT ABOVEĸLEFT RINGġFATHAġKASRAġLEFT HAMZAĦROUND DOT",
  "ġRIGHT HAMZAħROUND DOTĢOUND DOT ABOVEīBELOWġTOP RIGHT FATHAİ AND DOT ABOVEĵLEFT RINGĘDOT ABOVE",
  "ĘEXTENDED ARABIC-INDIC DIGIT THREE ABOVEĵWO ABOVEĘHAMZA ABOVEģ FINAL FORMĤISOLATED FORMĞBELOW",
  "ģ FINAL FORMĤISOLATED FORMĘLEFT MIDDLE STROKEĘMADDA ABOVEģ FINAL FORMĤISOLATED FORM",
  "ĘRIGHT MIDDLE STROKEī AND DOT ABOVEİLEFT RINGĘWAVY HAMZA ABOVEģBELOWĎBEEHĒ FINAL FORM",
  "ēINITIAL FORMĔSOLATED FORMēMEDIAL FORMĐHđ FINAL FORMĒINITIAL FORMēSOLATED FORMĒMEDIAL FORM",
  "ĒWITH DOT BELOW AND THREE DOTS ABOVEėHAMZA ABOVEėINVERTED SMALL V BELOWėSMALL MEEM ABOVEĝV",
  "Ğ BELOWėTHREE DOTS HORIZONTALLY BELOWĢPOINTING UPWARDS BELOWĸ AND TWO DOTS ABOVE",
  "ĘWO DOTS BELOW AND DOT ABOVEđEHē FINAL FORMĔINITIAL FORMĕSOLATED FORMĔMEDIAL FORMĎDAD",
  "đ FINAL FORMĒINITIAL FORMēSOLATED FORMĒMEDIAL FORMĒWITH DOT BELOWĐHALē FINAL FORM",
  "ĔISOLATED FORMĐLđ FINAL FORMĒISOLATED FORMĒWITH DOT BELOWĠ AND SMALL TAHėFOUR DOTS ABOVE",
  "ėINVERTED SMALL V BELOWĠVėRINGėTHREE DOTS ABOVE DOWNWARDSĢBELOW",
  "ĘWO DOTS VERTICALLY BELOW AND SMALL TAHďDAHALĔ FINAL FORMĕISOLATED FORMđLĒ FINAL FORM",
  "ēISOLATED FORMďOTLESS BEHĖFEHĖQAFďULđ FINAL FORMĒISOLATED FORMďYEHĒ FINAL FORMēINITIAL FORM",
  "ĔSOLATED FORMēMEDIAL FORMĎEď FINAL FORMĐINITIAL FORMđSOLATED FORMĐMEDIAL FORMĎFARSI YEH",
  "ė FINAL FORMĘINITIAL FORMęSOLATED FORMĘMEDIAL FORMĘWITH EXTENDED ARABIC-INDIC DIGIT FOUR BELOW",
  "ĹTHREE ABOVEĺWO ABOVEĝINVERTED VĝTHREE DOTS ABOVEĞWO DOTS ABOVEďEHđ FINAL FORMĒINITIAL FORM",
  "ēSOLATED FORMĒMEDIAL FORMĒWITH DOT BELOWĠ AND THREE DOTS ABOVEěMOVED BELOWėTHREE DOTS BELOW",
  "ĢPOINTING UPWARDS BELOWĘWO DOTS BELOWĎGAFđ FINAL FORMĒINITIAL FORMēSOLATED FORMĒMEDIAL FORM",
  "ĒWITH INVERTED STROKEėRINGėTHREE DOTS ABOVEĘWO DOTS BELOWďHAINē FINAL FORMĔINITIAL FORM",
  "ĕSOLATED FORMĔMEDIAL FORMĔWITH DOT BELOWęTHREE DOTS ABOVEďRAFďUEHĒ FINAL FORMēINITIAL FORM",
  "ĔSOLATED FORMēMEDIAL FORMĎHAHđ FINAL FORMĒINITIAL FORMēSOLATED FORMĒMEDIAL FORM",
  "ĒWITH EXTENDED ARABIC-INDIC DIGIT FOUR BELOWėHAMZA ABOVEėINVERTED SMALL V BELOW",
  "ėSMALL ARABIC LETTER TAH ABOVEİND TWO DOTSįBELOWėTHREE DOTS ABOVEĢPOINTING UPWARDS BELOW",
  "ĘWO DOTS ABOVEĠVERTICAL ABOVEĐMZAē ISOLATED FORMďEHđ DOACHASHMEEĝ FINAL FORMĞINITIAL FORM",
  "ğSOLATED FORMĞMEDIAL FORMĒFINAL FORMĒGOALĖ FINAL FORMėINITIAL FORMĘSOLATED FORMėMEDIAL FORM",
  "ėWITH HAMZA ABOVEĒINITIAL FORMēSOLATED FORMĒMEDIAL FORMĒWITH INVERTED VėYEH ABOVEĠ FINAL FORM",
  "ġISOLATED FORMďIGH HAMZAĘ ALEFęWAWęYEHĎJEEMĒ FINAL FORMēINITIAL FORMĔSOLATED FORMēMEDIAL FORM",
  "ēWITH THREE DOTS ABOVEģBELOWęWO DOTS ABOVEĐHđ FINAL FORMĒISOLATED FORMĎKAFđ FINAL FORM",
  "ĒINITIAL FORMēSOLATED FORMĒMEDIAL FORMĒWITH DOT ABOVEěBELOWėRINGėTHREE DOTS BELOW",
  "ĘWO DOTS ABOVEĐSHMIRI YEHďEHEHē FINAL FORMĔINITIAL FORMĕSOLATED FORMĔMEDIAL FORM",
  "ĔWITH DOT ABOVEęSMALL VęTHREE DOTS ABOVEĤBELOWĤPOINTING UPWARDS BELOWĚWO DOTS ABOVE",
  "ĢVERTICALLY BELOWďHAHĒ FINAL FORMēINITIAL FORMĔSOLATED FORMēMEDIAL FORMďIRGHIZ OEĘ FINAL FORM",
  "ęISOLATED FORMĖYUĘ FINAL FORMęISOLATED FORMĎLAMđ FINAL FORMĒINITIAL FORMēSOLATED FORM",
  "ĒMEDIAL FORMĒWITH BARėDOT ABOVEęUBLE BARėSMALL ARABIC LETTER TAH ABOVEĝVėTHREE DOTS ABOVE",
  "ĢBELOWďOW ALEFĎMARKďEEMĒ FINAL FORMēINITIAL FORMĔSOLATED FORMēMEDIAL FORMēWITH DOT ABOVEĜBELOW",
  "ĘTHREE DOTS ABOVEĎNGĐ FINAL FORMđINITIAL FORMĒSOLATED FORMđMEDIAL FORMĐOEHē FINAL FORM",
  "ĔINITIAL FORMĕSOLATED FORMĔMEDIAL FORMďOONĒ FINAL FORMēGHUNNAę FINAL FORMĚISOLATED FORM",
  "ēINITIAL FORMĔSOLATED FORMēMEDIAL FORMēWITH DOT BELOWĘINVERTED SMALL VĘRINGĘSMALL TAHĞV",
  "ĘTHREE DOTS ABOVEęWO DOTS BELOWďYEHĒ FINAL FORMēINITIAL FORMĔSOLATED FORMēMEDIAL FORMĎOE",
  "Đ FINAL FORMđISOLATED FORMĎPEHđ FINAL FORMĒINITIAL FORMēSOLATED FORMĒMEDIAL FORM",
  "ĒWITH SMALL MEEM ABOVEĝVđEHē FINAL FORMĔINITIAL FORMĕSOLATED FORMĔMEDIAL FORMĎQAFđ FINAL FORM",
  "ĒINITIAL FORMēSOLATED FORMĒMEDIAL FORMĒWITH DOT ABOVEěBELOWĠ AND NO DOTS ABOVE",
  "ėTHREE DOTS ABOVEĎREHđ FINAL FORMĒISOLATED FORMĒWITH DOT BELOWĠ AND DOT ABOVEėFOUR DOTS ABOVE",
  "ėHAMZA ABOVEėINVERTED VėLOOPėRINGėSMALL ARABIC LETTER TAH AND TWO DOTSĝNOON ABOVEĝVĞ BELOW",
  "ĘTROKEėTWO DOTS ABOVEĠVERTICALLY ABOVEďNOONē FINAL FORMĔINITIAL FORMĕSOLATED FORMĔMEDIAL FORM",
  "ďOHINGYA YEHďREHĒ FINAL FORMēISOLATED FORMĎSADđ FINAL FORMĒINITIAL FORMēSOLATED FORM",
  "ĒMEDIAL FORMĒWITH THREE DOTS ABOVEĢBELOWĘWO DOTS BELOWďEENĒ FINAL FORMēINITIAL FORM",
  "ĔSOLATED FORMēMEDIAL FORMēWITH DOT BELOW AND DOT ABOVEĘEXTENDED ARABIC-INDIC DIGIT FOUR ABOVE",
  "ĘFOUR DOTS ABOVEĘINVERTED VĘSMALL ARABIC LETTER TAH AND TWO DOTSĘTHREE DOTS BELOW",
  "Ĩ AND THREE DOTS ABOVEęWO DOTS VERTICALLY ABOVEďHEENē FINAL FORMĔINITIAL FORMĕSOLATED FORM",
  "ĔMEDIAL FORMĔWITH DOT BELOWďTRAIGHT WAWďUPERSCRIPT ALEFďWASH KAFĎTAHđ FINAL FORMĒINITIAL FORM",
  "ēSOLATED FORMĒMEDIAL FORMĒWITH DOT BELOWėTHREE DOTS ABOVEĢBELOWĘWO DOTS ABOVEďCHEHē FINAL FORM",
  "ĔINITIAL FORMĕSOLATED FORMĔMEDIAL FORMĔWITH DOT ABOVEęSMALL VēEHĕ FINAL FORMĖINITIAL FORM",
  "ėSOLATED FORMĖMEDIAL FORMďEHđ FINAL FORMĒINITIAL FORMēSOLATED FORMĒMARBUTAę FINAL FORMĚGOAL",
  "ĚISOLATED FORMēEDIAL FORMĒWITH RINGėSMALL TEH ABOVEĝVėTHREE DOTS ABOVE DOWNWARDSđEH",
  "ē FINAL FORMĔINITIAL FORMĕSOLATED FORMĔMEDIAL FORMďHALĒ FINAL FORMēISOLATED FORMĐEH",
  "Ē FINAL FORMēINITIAL FORMĔSOLATED FORMēMEDIAL FORMĐIN YEHďTEHĒ FINAL FORMēINITIAL FORM",
  "ĔSOLATED FORMēMEDIAL FORMēWITH SMALL VĒEHĔ FINAL FORMĕINITIAL FORMĖSOLATED FORMĕMEDIAL FORMĎU",
  "ď FINAL FORMĐISOLATED FORMĐWITH HAMZA ABOVEĠ ISOLATED FORM",
  "ďIGHUR KAZAKH KIRGHIZ ALEF MAKSURA INITIAL FORMıMEDIAL FORMĎVEĐ FINAL FORMđISOLATED FORMĐH",
  "đ FINAL FORMĒINITIAL FORMēSOLATED FORMĒMEDIAL FORMĎWAWđ FINAL FORMĒISOLATED FORM",
  "ĒWITH DOT ABOVEěWITHINėEXTENDED ARABIC-INDIC DIGIT THREE ABOVEĴWO ABOVEėHAMZA ABOVE",
  "Ģ FINAL FORMģISOLATED FORMėRINGėTWO DOTS ABOVEĎYEHđ BARREEĘ FINAL FORMęISOLATED FORM",
  "ęWITH EXTENDED ARABIC-INDIC DIGIT THREE ABOVEĻWO ABOVEĞHAMZA ABOVEĩ FINAL FORMĪISOLATED FORM",
  "ĒFINAL FORMĒINITIAL FORMēSOLATED FORMĒMEDIAL FORMĒWITH HAMZA ABOVEĢ FINAL FORMģINITIAL FORM",
  "ĤSOLATED FORMģMEDIAL FORMėSMALL VėTAILĘHREE DOTS BELOWĘWO DOTS BELOW AND DOT ABOVEĪHAMZA ABOVE",
  "ĪSMALL NOON ABOVEďUĐ FINAL FORMđISOLATED FORMĎZAHđ FINAL FORMĒINITIAL FORMēSOLATED FORM",
  "ĒMEDIAL FORMĐINĒ FINAL FORMēISOLATED FORMēWITH INVERTED V ABOVE",
  "ĈIGATURE AIN WITH ALEF MAKSURA FINAL FORMĦISOLATED FORMęJEEM INITIAL FORMğSOLATED FORM",
  "ĞWITH MEEM FINAL FORMĨINITIAL FORMęMEEM INITIAL FORMğSOLATED FORMĞWITH ALEF MAKSURA FINAL FORM",
  "ģMEEM FINAL FORMĨINITIAL FORMģYEH FINAL FORMęYEH FINAL FORMĝISOLATED FORMđKBAR ISOLATED FORM",
  "đLAYHAA AS-SALAAMĕE ISOLATED FORMĕI AS-SALAAMğTU WAS-SALAAMĖM AS-SALAAMėAA AS-SALAAM",
  "ĒEF MAKSURA WITH SUPERSCRIPT ALEF FINAL FORMĳISOLATED FORMĕWITH FATHATAN FINAL FORM",
  "ģISOLATED FORMĒLAH ISOLATED FORMđZZA WA JALLĐBEH WITH ALEF MAKSURA FINAL FORMĦISOLATED FORM",
  "ęHAH INITIAL FORMĞSOLATED FORMĝWITH YEH FINAL FORMĚEH INITIAL FORMĝMEDIAL FORM",
  "ęJEEM INITIAL FORMğSOLATED FORMęKHAH INITIAL FORMğSOLATED FORMĞWITH YEH FINAL FORM",
  "ęMEEM FINAL FORMĞINITIAL FORMğSOLATED FORMĞMEDIAL FORMęNOON FINAL FORMęREH FINAL FORM",
  "ęYEH FINAL FORMĝISOLATED FORMęZAIN FINAL FORMđISMILLAH AR-RAHMAN AR-RAHEEM",
  "ĐDAD WITH ALEF MAKSURA FINAL FORMĦISOLATED FORMęHAH INITIAL FORMĞSOLATED FORM",
  "ĝWITH ALEF MAKSURA FINAL FORMĢYEH FINAL FORMęJEEM INITIAL FORMğSOLATED FORMęKHAH INITIAL FORM",
  "ğSOLATED FORMĞWITH MEEM FINAL FORMĨINITIAL FORMęMEEM INITIAL FORMğSOLATED FORMęREH FINAL FORM",
  "ĝISOLATED FORMęYEH FINAL FORMĝISOLATED FORMĐFEH WITH ALEF MAKSURA FINAL FORMĦISOLATED FORM",
  "ęHAH INITIAL FORMĞSOLATED FORMęJEEM INITIAL FORMğSOLATED FORMęKHAH INITIAL FORMğSOLATED FORM",
  "ĞWITH MEEM FINAL FORMĨINITIAL FORMęMEEM INITIAL FORMğSOLATED FORMĞWITH YEH FINAL FORM",
  "ęYEH FINAL FORMĝISOLATED FORMĐGHAIN WITH ALEF MAKSURA FINAL FORMĨISOLATED FORM",
  "ěJEEM INITIAL FORMġSOLATED FORMěMEEM INITIAL FORMġSOLATED FORMĠWITH ALEF MAKSURA FINAL FORM",
  "ĥMEEM FINAL FORMĥYEH FINAL FORMěYEH FINAL FORMğISOLATED FORMĐHAH WITH ALEF MAKSURA FINAL FORM",
  "ĦISOLATED FORMęJEEM INITIAL FORMğSOLATED FORMĞWITH YEH FINAL FORMęMEEM INITIAL FORM",
  "ğSOLATED FORMĞWITH ALEF MAKSURA FINAL FORMģYEH FINAL FORMęYEH FINAL FORMĝISOLATED FORM",
  "đEH WITH ALEF MAKSURA ISOLATED FORMęJEEM INITIAL FORMğSOLATED FORMęMEEM INITIAL FORM",
  "ğSOLATED FORMĞWITH JEEM INITIAL FORMģMEEM INITIAL FORMęSUPERSCRIPT ALEF INITIAL FORM",
  "ęYEH ISOLATED FORMĐJALLAJALALOUHOUđEEM WITH ALEF MAKSURA FINAL FORMħISOLATED FORM",
  "ĚHAH INITIAL FORMğSOLATED FORMĞWITH ALEF MAKSURA FINAL FORMģYEH FINAL FORMĚMEEM INITIAL FORM",
  "ĠSOLATED FORMğWITH ALEF MAKSURA FINAL FORMĤHAH FINAL FORMĨINITIAL FORMĤYEH FINAL FORM",
  "ĚYEH FINAL FORMĞISOLATED FORMĐKAF WITH ALEF FINAL FORMĞISOLATED FORMĞMAKSURA FINAL FORM",
  "ĦISOLATED FORMęHAH INITIAL FORMĞSOLATED FORMęJEEM INITIAL FORMğSOLATED FORMęKHAH INITIAL FORM",
  "ğSOLATED FORMęLAM FINAL FORMĝINITIAL FORMĞSOLATED FORMĝMEDIAL FORMęMEEM FINAL FORM",
  "ĞINITIAL FORMğSOLATED FORMĞMEDIAL FORMĞWITH MEEM FINAL FORMĨINITIAL FORMģYEH FINAL FORM",
  "ęYEH FINAL FORMĝISOLATED FORMđHAH WITH ALEF MAKSURA FINAL FORMħISOLATED FORMĚHAH ISOLATED FORM",
  "ĚJEEM INITIAL FORMĠSOLATED FORMĚMEEM INITIAL FORMĠSOLATED FORMĚYEH FINAL FORMĞISOLATED FORM",
  "ĐLAM WITH ALEF FINAL FORMĞISOLATED FORMĞMAKSURA FINAL FORMĦISOLATED FORM",
  "ĞWITH HAMZA ABOVE FINAL FORMįISOLATED FORMĩBELOW FINAL FORMįISOLATED FORM",
  "ģMADDA ABOVE FINAL FORMįISOLATED FORMęHAH INITIAL FORMĞSOLATED FORM",
  "ĝWITH ALEF MAKSURA FINAL FORMĢMEEM FINAL FORMħINITIAL FORMĢYEH FINAL FORMĚEH INITIAL FORM",
  "ęJEEM INITIAL FORMğSOLATED FORMĞWITH JEEM FINAL FORMĨINITIAL FORMģMEEM FINAL FORMĨINITIAL FORM",
  "ģYEH FINAL FORMęKHAH INITIAL FORMğSOLATED FORMĞWITH MEEM FINAL FORMĨINITIAL FORM",
  "ęMEEM FINAL FORMĞINITIAL FORMğSOLATED FORMĞMEDIAL FORMĞWITH HAH FINAL FORMħINITIAL FORM",
  "ģYEH FINAL FORMęYEH FINAL FORMĝISOLATED FORMĐMEEM WITH ALEF FINAL FORMğMAKSURA ISOLATED FORM",
  "ĚHAH INITIAL FORMğSOLATED FORMĞWITH JEEM INITIAL FORMģMEEM INITIAL FORMģYEH FINAL FORM",
  "ĚJEEM INITIAL FORMĠSOLATED FORMğWITH HAH INITIAL FORMĤKHAH INITIAL FORMĤMEEM INITIAL FORM",
  "ĤYEH FINAL FORMĚKHAH INITIAL FORMĠSOLATED FORMğWITH JEEM INITIAL FORMĤMEEM INITIAL FORM",
  "ĤYEH FINAL FORMĚMEEM FINAL FORMğINITIAL FORMĠSOLATED FORMğWITH YEH FINAL FORM",
  "ĚYEH ISOLATED FORMđOHAMMAD ISOLATED FORMĐNOON WITH ALEF MAKSURA FINAL FORMħISOLATED FORM",
  "ĚHAH INITIAL FORMğSOLATED FORMĞWITH ALEF MAKSURA FINAL FORMģMEEM INITIAL FORMģYEH FINAL FORM",
  "ěEH INITIAL FORMĞMEDIAL FORMĚJEEM INITIAL FORMĠSOLATED FORMğWITH ALEF MAKSURA FINAL FORM",
  "ĤHAH FINAL FORMĨINITIAL FORMĤMEEM FINAL FORMĩINITIAL FORMĤYEH FINAL FORMĚKHAH INITIAL FORM",
  "ĠSOLATED FORMĚMEEM FINAL FORMğINITIAL FORMĠSOLATED FORMğMEDIAL FORM",
  "ğWITH ALEF MAKSURA FINAL FORMĤYEH FINAL FORMĚNOON FINAL FORMĚREH FINAL FORMĚYEH FINAL FORM",
  "ĞISOLATED FORMĚZAIN FINAL FORMĐQAF WITH ALEF MAKSURA FINAL FORMĦISOLATED FORMęHAH INITIAL FORM",
  "ĞSOLATED FORMęMEEM INITIAL FORMğSOLATED FORMĞWITH HAH FINAL FORMħINITIAL FORMģMEEM FINAL FORM",
  "ģYEH FINAL FORMęYEH FINAL FORMĝISOLATED FORMĒLA USED AS KORANIC STOP SIGN ISOLATED FORM",
  "đUDDISA SIRRAHĐRADI ALLAAHU ANHĠAAĠUMĢAAġNNAĒHIMAHU ALLAAHĘM ALLAAHĒSOUL ISOLATED FORM",
  "đEH WITH SUPERSCRIPT ALEF ISOLATED FORMĐSAD WITH ALEF MAKSURA FINAL FORMĦISOLATED FORM",
  "ęHAH INITIAL FORMĞSOLATED FORMĝWITH HAH FINAL FORMĦINITIAL FORMĢYEH FINAL FORM",
  "ęKHAH INITIAL FORMęMEEM INITIAL FORMğSOLATED FORMĞWITH MEEM FINAL FORMĨINITIAL FORM",
  "ęREH FINAL FORMĝISOLATED FORMęYEH FINAL FORMĝISOLATED FORMĒLAAMUHU ALAYNAAĔM ISOLATED FORM",
  "ēLA ISOLATED FORMĖUSED AS KORANIC STOP SIGN ISOLATED FORMĕLLAAHU ALAYHI WA-AALIH",
  "ĘHOU ALAYHE WASALLAMęU ALAYHI WAAALIHEE WA-SALLAMđEEN WITH ALEF MAKSURA FINAL FORM",
  "ħISOLATED FORMĚHAH INITIAL FORMğSOLATED FORMĞMEDIAL FORMĞWITH JEEM INITIAL FORM",
  "ěEH INITIAL FORMĞMEDIAL FORMĚJEEM INITIAL FORMĠSOLATED FORMğMEDIAL FORM",
  "ğWITH ALEF MAKSURA FINAL FORMĤHAH INITIAL FORMĚKHAH INITIAL FORMĠSOLATED FORMğMEDIAL FORM",
  "ğWITH ALEF MAKSURA FINAL FORMĤYEH FINAL FORMĚMEEM INITIAL FORMĠSOLATED FORMğMEDIAL FORM",
  "ğWITH HAH FINAL FORMĨINITIAL FORMĤJEEM INITIAL FORMĤMEEM FINAL FORMĩINITIAL FORM",
  "ĚREH FINAL FORMĞISOLATED FORMĚYEH FINAL FORMĞISOLATED FORMđHADDA WITH DAMMA ISOLATED FORM",
  "ĢMEDIAL FORMġTAN ISOLATED FORMĜFATHA ISOLATED FORMĢMEDIAL FORMĜKASRA ISOLATED FORMĢMEDIAL FORM",
  "ġTAN ISOLATED FORMĜSUPERSCRIPT ALEF ISOLATED FORMĒEEN WITH ALEF MAKSURA FINAL FORM",
  "ĨISOLATED FORMěHAH FINAL FORMğINITIAL FORMĠSOLATED FORMğMEDIAL FORMğWITH MEEM FINAL FORM",
  "ĩINITIAL FORMĤYEH FINAL FORMĜEH INITIAL FORMğMEDIAL FORMěJEEM FINAL FORMĠINITIAL FORM",
  "ġSOLATED FORMĠMEDIAL FORMĠWITH YEH FINAL FORMěKHAH FINAL FORMĠINITIAL FORMġSOLATED FORM",
  "ĠMEDIAL FORMěMEEM FINAL FORMĠINITIAL FORMġSOLATED FORMĠMEDIAL FORMĠWITH KHAH FINAL FORM",
  "ĪINITIAL FORMĥMEEM FINAL FORMĪINITIAL FORMěREH FINAL FORMğISOLATED FORMěYEH FINAL FORM",
  "ğISOLATED FORMđUBHAANAHU WA TAAALAAĐTABAARAKA WA-TAAALAAĒH WITH ALEF MAKSURA FINAL FORM",
  "ĦISOLATED FORMęHAH INITIAL FORMĞSOLATED FORMęMEEM INITIAL FORMğSOLATED FORMĞMEDIAL FORM",
  "ĞWITH HAH FINAL FORMħINITIAL FORMģMEEM INITIAL FORMģYEH FINAL FORMęYEH FINAL FORM",
  "ĝISOLATED FORMđEH WITH ALEF MAKSURA FINAL FORMĦISOLATED FORMęHAH INITIAL FORMĞSOLATED FORM",
  "ĝWITH JEEM FINAL FORMħINITIAL FORMĢMEEM INITIAL FORMĚEH INITIAL FORMĝMEDIAL FORM",
  "ęJEEM INITIAL FORMğSOLATED FORMĞWITH ALEF MAKSURA FINAL FORMģMEEM INITIAL FORMģYEH FINAL FORM",
  "ęKHAH INITIAL FORMğSOLATED FORMĞWITH ALEF MAKSURA FINAL FORMģMEEM INITIAL FORMģYEH FINAL FORM",
  "ęMEEM FINAL FORMĞINITIAL FORMğSOLATED FORMĞMEDIAL FORMĞWITH ALEF MAKSURA FINAL FORM",
  "ģHAH INITIAL FORMģJEEM INITIAL FORMģKHAH INITIAL FORMģYEH FINAL FORMęNOON FINAL FORM",
  "ęREH FINAL FORMęYEH FINAL FORMĝISOLATED FORMęZAIN FINAL FORM",
  "đHAL WITH SUPERSCRIPT ALEF ISOLATED FORMĒEH WITH ALEF MAKSURA FINAL FORMħISOLATED FORM",
  "ĚHEH MEDIAL FORMĚJEEM ISOLATED FORMĚMEEM FINAL FORMğINITIAL FORMĠSOLATED FORMğMEDIAL FORM",
  "ĚNOON FINAL FORMĚREH FINAL FORMĚYEH FINAL FORMĞISOLATED FORMĚZAIN FINAL FORM",
  "ĐUIGHUR KIRGHIZ YEH WITH HAMZA ABOVE WITH ALEF MAKSURA FINAL FORMņINITIAL FORMŇSOLATED FORM",
  "ĐWASALLAM ISOLATED FORMĐYEH WITH ALEF MAKSURA FINAL FORMĦISOLATED FORMęHAH INITIAL FORM",
  "ĞSOLATED FORMĝWITH YEH FINAL FORMěMZA ABOVE WITH AE FINAL FORMĭISOLATED FORMīLEF FINAL FORM",
  "įISOLATED FORMįMAKSURA FINAL FORMķISOLATED FORMĪE FINAL FORMĬINITIAL FORMĭSOLATED FORM",
  "ĪHAH INITIAL FORMįSOLATED FORMīEH INITIAL FORMĮMEDIAL FORMĪJEEM INITIAL FORMİSOLATED FORM",
  "ĪKHAH INITIAL FORMĪMEEM FINAL FORMįINITIAL FORMİSOLATED FORMįMEDIAL FORMĪNOON FINAL FORM",
  "ĪOE FINAL FORMĭISOLATED FORMĪREH FINAL FORMĪU FINAL FORMĬISOLATED FORMĪWAW FINAL FORM",
  "ĮISOLATED FORMĪYEH FINAL FORMĮISOLATED FORMīU FINAL FORMĭISOLATED FORMĪZAIN FINAL FORM",
  "ĚEH INITIAL FORMĝMEDIAL FORMęJEEM INITIAL FORMğSOLATED FORMĞWITH YEH FINAL FORM",
  "ęKHAH INITIAL FORMğSOLATED FORMęMEEM FINAL FORMĞINITIAL FORMğSOLATED FORMĞMEDIAL FORM",
  "ĞWITH MEEM FINAL FORMĨINITIAL FORMģYEH FINAL FORMęNOON FINAL FORMęREH FINAL FORM",
  "ęYEH FINAL FORMĝISOLATED FORMęZAIN FINAL FORMĐZAH WITH MEEM INITIAL FORMğSOLATED FORM",
  "ĞMEDIAL FORMćMADDA WAAJIBČH ABOVEĉRK NOON GHUNNAČSIDEWAYS NOON GHUNNAĉTHEMATICAL AINĕLEFĔBEH",
  "ĔDADĖLĕOTLESS BEHĜFEHĜNOONĜQAFĖUBLE-STRUCK AINĢBEHĢDADĤLĢFEHĢGHAINĢHAHĢJEEMĢKHAHĢLAMĢMEEMĢNOON",
  "ĢQAFĢREHĢSADģEENģHEENĢTAHģEHģHALĤEHĢWAWĢYEHĢZAHĤINĔFEHĔGHAINĔHAHĔINITIAL AINĜBEHĜDADĜFEHĜGHAIN",
  "ĜHAHĝEHĜJEEMĜKAFĝHAHĜLAMĜMEEMĜNOONĜQAFĜSADĝEENĝHEENĜTEHĝHEHĜYEHĔJEEMĔKAFĕHAHĔLAMĕOOPED AINĜLEF",
  "ěBEHěDADĝLěFEHěGHAINěHAHĜEHěJEEMěKHAHěLAMěMEEMěNOONěQAFěREHěSADĜEENĜHEENěTAHĜEHĜHALĝEHěWAWěYEH",
  "ěZAHĝINĔMEEMĔNOONĔOPERATOR HAH WITH DALĝMEEM WITH HAH WITH TATWEELĔQAFĔREHĔSADĕEENĕHEEN",
  "ĕTRETCHED AINĞBEHĞDADğOTLESS BEHĦFEHĞFEHĞGHAINĞHAHğEHĞJEEMĞKAFğHAHĞMEEMĞNOONĞQAFĞSADğEENğHEEN",
  "ĞTAHğEHğHEHĞYEHĞZAHĔTAHĖILED AINěDADĜOTLESS NOONģQAFěGHAINěHAHěJEEMěKHAHěLAMěNOONěQAFěSADĜEEN",
  "ĜHEENěYEHĕEHĕHALĖEHĔWAWĔYEHĔZAHĖINćNUMBER MARK ABOVEĎSIGNćOPEN DAMMATANČFATHATANČKASRATAN",
  "ćPERCENT SIGNĈIASTRE MARK ABOVEĈLACE OF SAJDAHĈOETIC VERSE SIGNĉUND MARK ABOVEćQUESTION MARK",
  "ćRAISED ROUND DOTĉYĈEVERSED DAMMAĈIGHT ARROWHEAD ABOVEĜ WITH DOTėBELOW",
  "ĈOUNDED HIGH STOP WITH FILLED CENTREćSEMICOLONĈHADDAč ISOLATED FORMĎMEDIAL FORM",
  "ĈIGN ALAYHE ASSALLAMČMISRAČRADI ALLAHOU ANHUĎHMATULLAH ALAYHEČSAFHAĎLLALLAHOU ALAYHE WASSALLAM",
  "ĎMVATĎNAHčINDHI AMPERSANDēPOSTPOSITION MENČTAKHALLUSĈMALL DAMMAčFARSI YEHďTHAčHIGH AIN",
  "ĒDOTLESS HEAD OF KHAHĒFARSI YEHēOOTNOTE MARKERĒJEEMĒLAM ALEFēIGATURE ALEF WITH LAM WITH YEH",
  "ěQAF WITH LAM WITH ALEF MAKSURAěSAD WITH LAM WITH ALEF MAKSURAĒMADDAēEEM INITIAL FORM",
  "ĘSOLATED FORMĒNOONĖ WITH KASRAĒQAFĒROUNDED ZEROĒSADēEENēIGN SAFHAĒTAHēHREE DOTS",
  "ĒUPRIGHT RECTANGULAR ZEROĒWAWēORD AL-JUZĘN-NISFĘR-RUBĘS-SAJDAĘTH-THALATHAėQIFėSAHęKTAėWAQFA",
  "ĒYEHĕ BARREE WITH TWO DOTS BELOWĒZAHĔINčKASRAčLOW MEEMđNOON WITH KASRAđSEENđWAWĒORD IMAALA",
  "ėSHMAAMĖTASHEELčWAWčYEHĈTART OF RUB EL HIZBĈUBSCRIPT ALEFĉKUNČ BELOWčISOLATED FORMčMEDIAL FORM",
  "ĉPERSCRIPT ALEF MOKHASSASĈYMBOL DOT ABOVEĒBELOWĐUBLE VERTICAL BAR BELOWĎFOUR DOTS ABOVEĘBELOW",
  "ĎRINGĎSMALL TAH ABOVEĘBELOWĎTHREE DOTS ABOVEęBELOWęPOINTING DOWNWARDS ABOVEĬBELOW",
  "ďWO DOTS ABOVEėBELOWėVERTICALLY ABOVEĢBELOWĎWASLA ABOVEćTAIL FRAGMENTĉTWEEL",
  "Ď WITH FATHATAN ABOVEĔOVERSTRUCK HAMZAğWAWĔTWO DOTS BELOWĈHOUSANDS SEPARATORĈONE LOOP ABOVE",
  "đBELOWČONE DOT ABOVEĔBELOWČTWO DOTS ABOVEĕBELOWĈRIPLE DOT PUNCTUATION MARKĈURNED DAMMA BELOW",
  "ćVERTICAL TAILĈOWEL SIGN DOT BELOWĒINVERTED SMALL V ABOVEĒSMALL V ABOVEćWAVY HAMZA BELOW",
  "ćZWARAKAYĆ-INDIC CUBE ROOTčDIGIT EIGHTēFIVEĔOURēNINEēONEēSEVENĔIXēTHREEĔWOēZEROčFOURTH ROOT",
  "čPER MILLE SIGNđTEN THOUSAND SIGNĂCĂIESĂMENIAN ABBREVIATION MARKĊPOSTROPHEĉCAPITAL LETTER AYB",
  "ĘBENĘCAęHAĚEHęOĘDAĘECHęHęTĘFEHĘGHADęIMĘHOĘINIĘJAęHEHĘKEHĚNĘLIWNĘMENĘNOWĘOHĘPEHęIWRĘRAęEHĘSEH",
  "ęHAĘTIWNęOĘVEWęOĘXEHĘYIĚWNĘZAęHEĊOMMAĉDRAM SIGNĉEMPHASIS MARKĊXCLAMATION MARKĉFULL STOPĉHYPHEN",
  "ĉMODIFIER LETTER LEFT HALF RINGĉQUESTION MARKĉSMALL LETTER AYBĖBENĖCAėHAĘEHėOĖDAĖECHėHėTĖFEH",
  "ĖGHADėIMĖHOĖINIĖJAėHEHĖKEHĘNĖLIWNĖMENĖNOWĖOHĖPEHėIWRĖRAėEHĖSEHėHAĖTIWNėOėURNED AYBĖVEWėOĖXEH",
  "ĖYIĘ WITH STROKEĘWNĖZAėHEĐIGATURE ECH YIWNĘMEN ECHĜINIĜNOWĜXEHĘVEW NOW",
  "ĂROW POINTING DOWNWARDS THEN CURVING LEFTWARDSĦRIGHTWARDSďRIGHTWARDS THEN CURVING DOWNWARDS",
  "ħSOUTH WESTħUPWARDSďUPWARDS THEN NORTH WESTąHEAD-SHAPED POINTERĂTICULATED LORRYĄST PALETTE",
  "āSCENDING NODEăIA SYMBOLĂSERTIONĂTERISKĈ OPERATORćMăONISHED FACEăRAEA",
  "ĄONOMICAL SYMBOL FOR URANUSĂYMPTOTICALLY EQUAL TOāTHLETIC SHOEĂOM SYMBOLāUBERGINEĂSTRAL SIGN",
  "ĂTO RICKSHAWĄMATED TELLER MACHINEąOBILEāVESTAN ABBREVIATION MARKĈLETTER AĐAđNđOĐEđEĐNĐOďBEĐHE",
  "ďCEďDEĐHEďEĐEďFEďGEĐGEĐHEďHEĐMEďIĐIďJEďKEďLEďMEďNEĐGEđVEđYEĐNEĐYEďOĐOďPEďREďSEĐHEđYEĐSHEďTEĐHE",
  "ĐTEďUĐUďVEďXEĐVEĐYEďYEĐYEďZEĐHEĂOCADOāXEĀBABYĄ ANGELąBOTTLEąCHICKąSYMBOLĂCK OF ENVELOPE",
  "ąWITH LEFTWARDS ARROW ABOVEĄ-TILTED SHADOWED WHITE RIGHTWARDS ARROW",
  "ĄSLANTED SOUTH ARROW WITH HOOKED TAILğRIZONTAL TAILąPACEăONăTRIAN CAMELĂDGER",
  "ăMINTON RACQUET AND SHUTTLECOCKĂGELăGAGE CLAIMăUETTE BREADĂLINESE ADEG ADEGĉCARIK PAMUNGKAH",
  "đRERENďSIKIĉDIGIT EIGHTďFIVEĐOURďNINEďONEďSEVENĐIXďTHREEĐWOďZEROĉLETTER AIKARAđKARAĕ TEDUNG",
  "đRCHAIC JNYAđSYURA SASAKĐBAĒ KEMBANGĐCAĒ LACAĐDAĒ MADUĔURDA ALPAPRANAęMAHAPRANAĐEF SASAKđKARA",
  "ĐGAĒ GORAĐHAĐIKARAĕ TEDUNGĐJAĒ JERAĐKAĒ MAHAPRANAĒF SASAKđHOT SASAKĐLAĒ LENGAĘ TEDUNGĐMAĐNA",
  "Ē RAMBATđGAđYAĐOKARAĕ TEDUNGĐPAĒ KAPALĐRAĒ REPAė TEDUNGĐSAĒ SAGAĕPAĐTAĒ LATIKēMURDA MAHAPRANA",
  "ēTAWAđZIR SASAKĐUKARAĕ TEDUNGĐVE SASAKĐWAĐYAĐZAL SASAKĉMUSICAL SYMBOL COMBINING BENDEĢENDEP",
  "ĢGONGĢJEGOGANĢKEMPLIĨ WITH JEGOGANĦULĨ WITH JEGOGANĢTEGEHĘDAENGĚINGĚNGĜ GEDEĝSURANGęENGĚUNG",
  "ęINGęONGęUNGĘLEFT-HAND CLOSED PLAKīUKĢOPEN PANGĨINGĨUNGĘRIGHT-HAND CLOSED TAKīUKģOPEN DAGĩUG",
  "ĉPAMADAď LANTANGČENENGċNTIĎ LANTANGĉSIGN BISAHĎCECEKĎREREKANĎSURANGĎULU CANDRAĒRICEM",
  "ĉVOWEL SIGN LA LENGAĜ TEDUNGĔPEPETę TEDUNGĔRA REPAě TEDUNGĔSUKUĘ ILUTĔTALINGĚ REPAğ TEDUNG",
  "ěTEDUNGĕEDUNGĔULUė SARIĉWINDUăL OF YARNĄET SHOESĄOONć-SPOKED ASTERISKąT BOLD SCRIPT XĉX",
  "Ċ WITH BALLOTđOLD CHECKĕSCRIPT XĐCHECKĐLIGHT XĐSCRIPT XĐXćSCRIPT XćXĂMUM COLON",
  "ĈMBINING MARK KOQNDONĕTUKWENTISĉMAĆFULL STOPĆLETTER AčEEčFAAMAEĎEEĎOMĎUčIčKAĎENďTďUXĎIĎOďGHOM",
  "ďVUUĎPAĎUĎYEEčLAĎEEEEĎIĎOQĎUčMĎAĎBAAďENĎEEEEďNĎIĎOĎUčNAĎDAAĎGAďGAďKWAENĎIĎJAEMďEEďUAEĎSHAĎTEE",
  "ďUUĎUďAEĎYIčOčPAĎEEďUXĎHASE-A FIRIĕGBIEE FONĖHEUAEGHEUAEěRAEĕKAFAėQĖETėUKEUTNDAĖPOQĖUOQĕLAPAQ",
  "ĖET KUTĖOMMAEĖUėAEPĕMAEKEUPĘMęBGBIEEęKPENęVEUXĘNYIĘSIėNSUAEėP PIEETĖBANYIĘQĖEUNJOMNDEUQĖGBASA",
  "ĖON NGGEUAETėOMEUTęPUQĖVEUAENGAMĕNAA MFONėQĖDA LEERAEWAĘANGGEUAETĖENĖGANGUėGENėKUE MFONĚNZEUM",
  "ĖIKAĖJAMĖKAARAEėINDIĖSHAĘIEEĖTAPę MFAAĚNTAAėOQPENĖYETėIĘT MONGKEUAEQĖZA MFONėUN MEUT",
  "ĕPA LEERAEWAėAMĘRAEėMSHAEėSHAEĖETĖON MFON PIPAEMBAĤGBIEEęPA NJI PIPAEMBAĦGBIEEĖUPĕROMĕSEUNYAM",
  "ĖHINDA PA NJIĘRAEėOQ NSHUT YUMėUENSHUETĘMĖISAĖONJAMėQėTĖUUĕTEUAENĘTEUWENĖITA MFONĖU MAEMBAėAEP",
  "ĕU YUQ NAEĖNKNOWNĕVEEēB FEEėUXĕGHEUGHENĜUAEMĕKAMĖEUAEMĘPUQĘYEUXĖIEEMėQĕLAANAEėM NSHUT NYAMĖET",
  "ĖOM NTEUMĕMAė NJEUAENAĚUQAĖBA MAELEEĘARAEėEURIėIT MBAAKETėUOQĖEUQĘT NGGEETĖFIYAQėON TEUAEQ",
  "ĖONTIEENĕNDU NJAAĖGGAAMĘEU MBUĘUOQě LARGEėKINDI MVOPėOMĖSENėHUETĖTIEE SHEUOQĖYAEMAEėI NTEUM",
  "ĕPARUMĖEESHIĖITĖUNGAAMĕSAKEUAEĖET TUĖHET NJAQĘUAEQTUĖIEEĖUEĕTAAMĖU MAEMGBIEEĘNSIEEĕVEUMĕWUAET",
  "ĕYAFU LEERAEWAĖEURAEēC BUNGĕFUEĕGBAYIĖHAPĘRAEĕKAAĖEN FATIGUEęLAWėTėUKAQĘMĘSEUXęHEUAEPĖPARAQ",
  "ĖUOP NKAARAEėTĕLAMėPĖIQĖUĕMA KEUAERIĘNSIEEėEMBAĘSIĖBAA CABBAGE-TREEĚPICKETĘNYIėEEKEETĘRAEĘUMęX",
  "ėIĘRIEENĘTėUAEMĘEĖGBASAQĖIEEĖUAEĕNANSANAQėQĖDAMĘPėEUAEREEęTėIDAėOMBUĖGAQėGENĘUęAEN NYAMęEETęM",
  "ęONėKAQĘUE MAEMBAėOMĖJAEMĘMėEEEEĘUXėUEQĖSAėEUAENėHAQėOMėUNĘOT NGOMĖTAAėENĘUNGBAėU MBIT",
  "ĖYIR MKPARAQ MEUNĖZAėEUMĕPENĖINėRIEENĕRUĕSETFONėUXĖHIQėUEQĖUAETĕTAASHAEĖETėUTEUXĖITA YUEĘUAEP",
  "ĕVEUAEPENĘXĕWANGKUOQĖUPĕYAAĖEUQĖU MUOMAEėMėWOQēD FAAĖEUFEUAETĕGHAAėEUAEĕKETėUAETMEUNĘM",
  "ĘOT MBUAEĘPĖUėNėOMėQĖWAETĖYEEĕLEEEEėTėUAEPĘMĖIEEĖOQĖUMĕMĖAENJETėLEERIĖBAAę SEVENėUOĖEEEEėUNĘT",
  "ĖFEUAEęTėIEEėOĘNĖGBEUNĘIEEĘOFUMĖONIĖUĖVOPĕNDAMėEEĘUXėONĖGGAAMěAEęPĘEUXĘUOMĘWAENėKAPĘEUAEQĚRI",
  "ĘIEEĘUNĘYEEĖIĖJAPėEUAEMęTėIĘEEėUEQĖSHEEĘUTėIEEPĚTėUMĖTEEĘUMėUUĖUĖYAMėETėIėUEĕPAPĖEEėUTAEĖIPĖUQ",
  "ėUTĕRAEMĖEN MUCHęOLDĖIIĕSAPėQĖEUAEQĖHEEĘUAEęXėIIėOQėUĖOTĖUAEėEėUĕTAEĖEEEEėUAENĘNĘTĖIĖOQĖUėOT",
  "ĕWAPĖUAENĕYAEMMAEĖENĖUOMĘPėWOQēE AĕFAėQĖEEĖOMĖU CALLĘIĘREMEDYėEĘTĕGBETĘUXĖHAAMAEėETĘUAEęNęXėOM",
  "ĕIĕKETėUAEĘXĖIĖOĖPEUXĖUETėOPėTĕLAAMėPėQĖEUAEMĖOMėONĘTėQĖUĕMAėEĘMėPėQĖBEEĘUMĖENĖFEUQĖGBAĘENĖI",
  "ėEEĖONĖUAEĖVIĕNAėEĖDAA MY HOUSEĚSOFTNESSĘPėIAQĘQėUNĖGAėEUREUTėGEEEEęUAEĜTĘUAESHAE NYAMęPęRAE",
  "ėKAęAMIĘEUAEMĚXĘUMęPėOPĘQėUAEĚTĖJAEMLIėEEę EPOCHĘUXĖKOMĖSHIEEĘUEęOPĖTAPėUMĖYI BETWEENęCLEAVER",
  "ĖZAQėUQĕOĕPA PEOPLEęLURALėAĘMĖEEMėUTĘXĖIėEEQĘTĖOėONĖUėAEĘQėEėMĕRAEėQĖEUXĖIMGBAĕSAAĖEEėTĖHEUAEQ",
  "ėIQėOĘQĖOMĖUAENĕTAAĘQėEN NTEUMėMėQĖENėUĘAEQĖOOĘNėQĖUAEėMĘAEĕVEEėUAEĖOMĕWEUXĖUEėOĕYAPĖEUAEĚTĘM",
  "ĘXĖIEEėTĖOQ COVERęSWIMMINGĖUAENėEQėNėQēF EEĕFOMĕKAĖENėTĖOĖPAĖUĖYEEĕLAĖIĖOQĕMĖAĖBAAėENĖEEEEĖO",
  "ĕNDAAĖGGAėKWAENĖIĖJAEMėUAEĖSHAĖTEEĖUėAEĖYIĕPEEėUXĖUAEĕREEėNėUXĖIEEėIĖUĕSAMBAĖEUXĖHIIėOėUĖIĖUU",
  "ĕTAAėEĖETĕUĕVUEQĕWAĖUEĕYAĖOQĎIĎUAEďEčRAEĎEEďNďUXĎIEEďIĎUčSAMBAĎEUXĎHEUXďIIďOďUĎIĎUUčTAAďEĎENďT",
  "ĎIčUčWAĎUEčYAĎOQĎUQĆNJAEMLIĆQUESTION MARKĆSEMICOLONĂNANAăJOăKĄNOTE WITH DOLLAR SIGNĎEURO SIGN",
  "ĎPOUND SIGNĎYEN SIGNĂR CHARTĄOF SOAPăBER POLEĂSEBALLăKETĆBALL AND HOOP",
  "ăSA VAH COMBINING HIGH TONEĘ-LOW TONEĔLOW TONEė-MID TONEĔMID TONEĊFULL STOPĊLETTER AđBAđCE",
  "đDHIIĒOđEĒEĒNNIđFAđGAHĒBUđHWAHđIđJOđKAĒPAHđMBEđOĒOđPAđSEđTOđUĒWUđVUđWAēDDAđYEINĒIEđZOĂT",
  "ăAK CONSONANT SIGN HĕNGĆLETTER AčBAčCAčDAčGAčHAčIčJAčKARO BAčLAčMAďNDAILING HAĘNAĘSAĎBAčNAĎDA",
  "ĎGAĎORTHERN TAĎYAčPAďKPAK WAčRAčSAĎIMALUNGUN AĘGAĘHAĘLAĘMAĘPAĘRAĘSAĘWAĘYAĎOUTHERN TAčUčWAčYA",
  "ĆPANGOLATĉONGONANĆSIGN TOMPIćYMBOL BINDU JUDULēNA METEKēPANGOLATĔINARBORASĆVOWEL SIGN EĒEđI",
  "đKARO IĖOđOđPAKPAK EđUĒ FOR SIMALUNGUN SAăHĄTUBăTERYāEACH WITH UMBRELLA",
  "ăMED ASCENDING MUSICAL NOTESćDESCENDING MUSICAL NOTESćEIGHTH NOTESćSIXTEENTH NOTESăNSăR FACE",
  "ĄDED PERSONăTING HEARTăVERĂCAUSEĂDĂER MUGăTLEĂLăLĄ PEPPERąSYMBOLąWITH CANCELLATION STROKE",
  "ĄHOP BELLĂNGALI ABBREVIATION SIGNĉNJIĉU LENGTH MARKĈCURRENCY DENOMINATOR SIXTEEN",
  "đNUMERATOR FOURěONEĞ LESS THAN THE DENOMINATORěTHREEĜWOĈDIGIT EIGHTĎFIVEďOURĎNINEĎONEĎSEVENďIX",
  "ĎTHREEďWOĎZEROĈGANDA MARKĈISSHARĈLETTER AĐAĐIĐUďBAĐHAďCAĐHAďDAĐDAđHAĐHAďEďGAĐHAďHAďIĐIďJAĐHA",
  "ďKAĐHAĒNDA TAďLAďMAďNAĐGAĐNAĐYAďOďPAĐHAďRAđ WITH LOWER DIAGONALėMIDDLE DIAGONALĐHAĐRAďSAĐHAĐSA",
  "ďTAĐHAĐTAđHAďUĐUďVEDIC ANUSVARAĐOCALIC LĘLėRĘRďYAĐYAĈRUPEE MARKĎSIGNĈSANDHI MARKĉIGN ANUSVARA",
  "ĎVAGRAHAčCANDRABINDUčNUKTAčVIRAMAďSARGAĈVOWEL SIGN AAĔIĔUēEēIĔIēOēUĔUēVOCALIC LĜLěRĜR",
  "ăT ARROW POINTING DOWNWARDS THEN NORTH EASTĄO BOXăZENE RINGČ WITH CIRCLEĂT SYMBOLăWEEN",
  "ĂVERAGE BOXāHAIKSUKI DANDAċIGIT EIGHTĐFIVEđOURĐNINEĐONEĐSEVENđIXĐTHREEđWOĐZEROċOUBLE DANDA",
  "ĊGAP FILLER-1ĕ2ĊHUNDREDS UNIT MARKĊLETTER AĒAĒIĒUđBAĒHAđCAĒHAđDAĒDAēHAĒHAđEđGAĒHAđHAđIĒIđJAĒHA",
  "đKAĒHAđLAđMAđNAĒGAĒNAĒYAđOđPAĒHAđRAđSAĒHAĒSAđTAĒHAĒTAēHAđUĒUđVAĒOCALIC LęRĚRđYAĊNUMBER EIGHTĖY",
  "đFIFTYēVEĒORTYēURđNINEĕTYđONEđSEVENĖTYĒIXĔTYđTENĒHIRTYēREEĒWENTYēOĊSIGN ANUSVARAĐVAGRAHA",
  "ďCANDRABINDUďVIRAMAđSARGAĊVOWEL SIGN AAĖIĖUĕEĕIĖIĕOĕUĖUĕVOCALIC LĝRĞRĊWORD SEPARATORāICYCLE",
  "ĆISTĂG REVERSE SOLIDUSĄSOLIDUSĂKINIĂLLED CAPĄIARDSĂOHAZARD SIGNĂRDăTHDAY CAKEĂSONĂTCOIN SIGN",
  "ăING LIPāLACK BOWTIEĆCENTRE WHITE STARćHESS BISHOPĒ ROTATED NINETY DEGREES",
  "ěTWO HUNDRED SEVENTY DEGREESČEQUIHOPPERĖ ROTATED NINETY DEGREESČKINGĐ ROTATED NINETY DEGREES",
  "ęTWO HUNDRED SEVENTY DEGREESčNIGHTĒ ROTATED FORTY-FIVE DEGREESěNINETY DEGREES",
  "ěONE HUNDRED THIRTY-FIVE DEGREESěTHREE HUNDRED FIFTEEN DEGREESĜWO HUNDRED SEVENTY DEGREES",
  "ħTWENTY-FIVE DEGREESĒ-BISHOPēQUEENēROOKČPAWNĐ ROTATED NINETY DEGREES",
  "ęTWO HUNDRED SEVENTY DEGREESČQUEENđ ROTATED NINETY DEGREESĚTWO HUNDRED SEVENTY DEGREESČROOK",
  "Đ ROTATED NINETY DEGREESęTWO HUNDRED SEVENTY DEGREESČTURNED BISHOPēKINGĔNIGHTēPAWNēQUEENēROOK",
  "ćIRCLEČ FOR RECORDčWITH DOWN ARROWĒTWO WHITE DOTSĒWHITE DOT RIGHTćLUB SUITćROSS ON SHIELD",
  "ćURVED DOWNWARDS AND LEFTWARDS ARROWěRIGHTWARDS ARROWčLEFTWARDS AND DOWNWARDS ARROW",
  "ěUPWARDS ARROWčRIGHTWARDS AND DOWNWARDS ARROWĜUPWARDS ARROWčUPWARDS AND LEFTWARDS ARROW",
  "ęRIGHTWARDS ARROWĆDIAMONDč CENTREDĎMINUS WHITE XĎON CROSSĎSUITĎWITH DOWN ARROW",
  "ćOWN POINTING BACKHAND INDEXĊ-POINTING DOUBLE TRIANGLEĔISOSCELES RIGHT TRIANGLEĔSMALL TRIANGLE",
  "ĔTRIANGLEĊWARDS EQUILATERAL ARROWHEADćRAUGHTS KINGďMANĈOPLETĆFLAGĈORETTEćOLDERĈUR POINTED STAR",
  "ĆHARD SHELL FLOPPY DISKćEARTċ SUITĈXAGONćORIZONTAL ELLIPSEĈURGLASSĆLARGE CIRCLEČSQUARE",
  "ćEFT LANE MERGEċPOINTING BACKHAND INDEXĔINDEXĊ-POINTING DOUBLE TRIANGLEģ WITH VERTICAL BAR",
  "ĔISOSCELES RIGHT TRIANGLEĔPOINTERĔSMALL TRIANGLEĔTRIANGLEĊWARDS BULLETĐEQUILATERAL ARROWHEAD",
  "ćOWER LEFT TRIANGLEČRIGHT TRIANGLEĈZENGEĆMEDIUM DIAMONDĎOWN-POINTING TRIANGLEģ CENTRED",
  "čLEFT-POINTING TRIANGLEģ CENTREDĎOZENGEčRIGHT-POINTING TRIANGLEĤ CENTREDčSMALL DIAMONDēLOZENGE",
  "ēSQUAREĎQUAREčUP-POINTING TRIANGLEġ CENTREDćOON LILITHĆNIBĆOCTAGONĆPARALLELOGRAMćENNANTĉTAGON",
  "ćUSHPINĆQUESTION MARK ORNAMENTĆRECTANGLEćIGHT POINTING BACKHAND INDEXĕINDEX",
  "ċ-POINTING DOUBLE TRIANGLEĤ WITH VERTICAL BARĕISOSCELES RIGHT TRIANGLEĕPENTAGONĖOINTER",
  "ĕSMALL TRIANGLEĕTRIANGLEĝ WITH DOUBLE VERTICAL BARċWARDS ARROWĖHEADđBULLET",
  "đEQUILATERAL ARROWHEADćOSETTEĆSAFETY SCISSORSćCISSORSćHOGI PIECEćKULL AND CROSSBONES",
  "ćLIGHTLY SMALL CIRCLEĕSQUAREćMALL DIAMONDČLOZENGEČSQUAREčTARĈILING FACEćNOWMANćPADE SUITćQUARE",
  "Č BUTTONčCENTREDčFOR STOPćTARćUN WITH RAYSĆTELEPHONEćINY DIAMONDċLOZENGEċSQUARE",
  "ćOUCHTONE TELEPHONEćRUCKćWO-WAY LEFT WAY TRAFFICĆUNIVERSAL RECYCLING SYMBOL",
  "ćP POINTING BACKHAND INDEXĈ-POINTING DOUBLE TRIANGLEĒISOSCELES RIGHT TRIANGLEĒSMALL TRIANGLE",
  "ĒTRIANGLEĈPER LEFT TRIANGLEČRIGHT TRIANGLEĈWARDS EQUILATERAL ARROWHEADĆVERTICAL ELLIPSE",
  "ďRECTANGLEĉY SMALL DIAMONDđLOZENGEđSQUAREą-FEATHERED NORTH EAST ARROWĐRIGHTWARDS ARROW",
  "ĐSOUTH EAST ARROWĆLETTER CAPITAL CĕHĕIĕRĕZăNK SYMBOLĂOCK SEXTANT-1ď2Đ3đ4Ē5Ē6đ5Ē6đ6Đ4đ5Ē6đ6Đ5đ6",
  "Đ6ď3Đ4đ5Ē6đ6Đ56Đ6ď4Đ5đ6Đ6ď5Đ6ď6Ď2ď3Đ4đ5Ē6đ6Đ5đ6Đ6ď4Đ5đ6ď5Đ6ď6Ď3ď4Đ5đ6Đ6ď5Đ6ď6Ď4ď5Đ6ď6Ď5ď6Ď6",
  "ăSSOMăWFISHĂUE BOOKąHEARTĄBERRIESāOARĂLD EIGHT SPOKED ASTERISKąFIVE SPOKED ASTERISK",
  "ąGREEK CROSSąSALTIREĆIX SPOKED ASTERISKąWHITE CIRCLEċSQUAREĂMăBĂNEĂOKĄMARKĈ TABSĄSăMERANG",
  "ĂPOMOFO FINAL LETTER GĖHĖKĖPĖTĉLETTER AđHđIĒNNđMđNĒGĒNđUĒNNĐBđUĐCđHĐDĐEđEđHđIđNĒGĒNđRĐFĐGđHđN",
  "đUđWĐHĐIđHđMđNNēNđRđUĐJđIĐKđWĐLđHĐMĐNđGĒGđNĐOđ WITH DOT ABOVEđEđMđNGĒNđOđUĐPĐQĐRĐSđHĐTĐUđNNĐV",
  "ĐXĐZđHđIđYĂTTLE WITH POPPING CORKĄOM ARC ANTICLOCKWISE ARROWćCURLY BRACKETćHALF BLACK CIRCLE",
  "ČINTEGRALČLEFT PARENTHESISČRIGHT PARENTHESISćLEFT CORNERčROPČHALF BRACKETćPARENTHESIS",
  "ćRIGHT CORNERĎROPčHALF BRACKETćSQUARE BRACKETĕ OVER TOP SQUARE BRACKETćTORTOISE SHELL BRACKET",
  "ĂUQUETć OF FLOWERSĂW AND ARROWăL OF HYGIEIAąWITH SPOONĄINGăTIEĆ WITH LEFT HALF BLACK",
  "ČRIGHT HALF BLACKĂX DRAWINGS DOUBLE DOWN AND HORIZONTALĝLEFTĝRIGHTĔHORIZONTAL",
  "ĔUP AND HORIZONTALěLEFTěRIGHTĔVERTICALĜ AND HORIZONTALġLEFTġRIGHT",
  "ďWN DOUBLE AND HORIZONTAL SINGLEĝLEFT SINGLEĝRIGHT SINGLEĒHEAVY AND HORIZONTAL LIGHT",
  "ĜLEFT LIGHTġUP LIGHTĜRIGHT LIGHTĢUP LIGHTĜUP HORIZONTAL LIGHTĒLIGHT AND HORIZONTAL HEAVY",
  "ĜLEFT HEAVYġUP HEAVYĜRIGHT HEAVYĢUP HEAVYĜUP HORIZONTAL HEAVYĒSINGLE AND HORIZONTAL DOUBLE",
  "ĝLEFT DOUBLEĝRIGHT DOUBLEčHEAVY DOUBLE DASH HORIZONTALğVERTICALĕWNė AND HORIZONTALĜLEFTĜRIGHT",
  "ēHORIZONTALēLEFTė AND LIGHT RIGHTēQUADRUPLE DASH HORIZONTALĢVERTICALēRIGHT",
  "ēTRIPLE DASH HORIZONTALğVERTICALēUPĕ AND HORIZONTALĚLEFTěIGHT DOWNĚRIGHTēVERTICAL",
  "ě AND HORIZONTALĠLEFTĠRIGHTčLEFT DOWN HEAVY AND RIGHT UP LIGHTĒHEAVY AND RIGHT DOWN LIGHT",
  "ĢUP LIGHTĢVERTICAL LIGHTĒLIGHT AND RIGHT DOWN HEAVYĢUP HEAVYĢVERTICAL HEAVY",
  "ĒUP HEAVY AND RIGHT DOWN LIGHTĎIGHT ARC DOWN AND LEFTĠRIGHTėUP AND LEFTĞRIGHTēDIAGONAL CROSS",
  "ĜDIAMONDĜMIDDLE LEFT TO LOWER CENTREķ TO MIDDLE RIGHTīUPPER CENTRE TO MIDDLE RIGHT",
  "Ň TO LOWER CENTREģRIGHT TO LOWER CENTREĬUPPER CENTRE TO MIDDLE LEFT TO LOWER CENTRE",
  "ĜUPPER CENTRE TO MIDDLE LEFTķ AND MIDDLE RIGHT TO LOWER CENTREĸTO LOWER CENTRE",
  "Ň TO MIDDLE RIGHTĳRIGHTĸ AND MIDDLE LEFT TO LOWER CENTREĹTO LOWER CENTREň TO MIDDLE LEFT",
  "ĢLEFT TO LOWER RIGHTĢRIGHT TO LOWER LEFTĔOUBLE DASH HORIZONTALğVERTICALĕWNė AND HORIZONTAL",
  "ĜLEFTĜRIGHTēHORIZONTALĝ WITH VERTICAL STROKEēLEFTė AND HEAVY RIGHTēQUADRUPLE DASH HORIZONTAL",
  "ĢVERTICALēRIGHTēTRIPLE DASH HORIZONTALğVERTICALēUPĕ AND HEAVY DOWNěORIZONTALĚLEFTĚRIGHT",
  "ēVERTICALě AND HORIZONTALĠLEFTĠRIGHTčRIGHT DOWN HEAVY AND LEFT UP LIGHT",
  "ēHEAVY AND LEFT DOWN LIGHTĢUP LIGHTĢVERTICAL LIGHTēLIGHT AND LEFT DOWN HEAVYĢUP HEAVY",
  "ĢVERTICAL HEAVYēUP HEAVY AND LEFT DOWN LIGHTčUP DOUBLE AND HORIZONTAL SINGLEěLEFT SINGLE",
  "ěRIGHT SINGLEĐHEAVY AND DOWN HORIZONTAL LIGHTĚHORIZONTAL LIGHTĚLEFT DOWN LIGHTğLIGHT",
  "ĚRIGHT DOWN LIGHTĠLIGHTĐLIGHT AND DOWN HORIZONTAL HEAVYĚHORIZONTAL HEAVYĚLEFT DOWN HEAVYğHEAVY",
  "ĚRIGHT DOWN HEAVYĠHEAVYĐSINGLE AND HORIZONTAL DOUBLEěLEFT DOUBLEěRIGHT DOUBLE",
  "čVERTICAL DOUBLE AND HORIZONTAL SINGLEġLEFT SINGLEġRIGHT SINGLEĖHEAVY AND HORIZONTAL LIGHT",
  "ĠLEFT LIGHTĠRIGHT LIGHTĖLIGHT AND HORIZONTAL HEAVYĠLEFT HEAVYĠRIGHT HEAVY",
  "ĖSINGLE AND HORIZONTAL DOUBLEġLEFT DOUBLEġRIGHT DOUBLEăING GLOVEĂYăS SYMBOLāPHāRAHMI DANDA",
  "ĈIGIT EIGHTčFIVEĎOURčNINEčONEčSEVENĎIXčTHREEĎWOčZEROĈOUBLE DANDAćLETTER AďAďIďUĎBAďHAĎCAďHAĎDA",
  "ďDAĐHAďHAĎEĎGAďHAĎHAĎIďIĎJAďHAĎKAďHAĎLAďLAĎMAĎNAďGAďNAďYAĎOďLD TAMIL LLAĚLAĘNNNAĘRRAĘSHORT EĞO",
  "ĎPAďHAĎRAĎSAďHAďSAĎTAďHAďTAĐHAĎUďUĎVAďOCALIC LėLĖRėRĎYAćNUMBER EIGHTēYĎFIFTYĐVEďORTYĐURĎJOINER",
  "ĎNINEĒTYĎONEđ HUNDREDĒTHOUSANDĎSEVENēTYďIXđTYĎTENďHIRTYĐREEďWENTYĐOćPUNCTUATION CRESCENT BAR",
  "ēDOTĕUBLE DOTēLINEĔOTUSćSIGN ANUSVARAČCANDRABINDUČJIHVAMULIYAČOLD TAMIL VIRAMAČUPADHMANIYA",
  "ČVISARGAćVIRAMAĈOWEL SIGN AAēIēUĒBHATTIPROLU AAĒEĒIēIĒOēLD TAMIL SHORT EĢOĒUēUĒVOCALIC LěLĚRěR",
  "ăILLE PATTERN BLANKĐDOTS-1Ė2ė3Ę4ę5Ě6ě7Ĝ8ě8Ě7ě8Ě8ę6Ě7ě8Ě8ę7Ě8ę8Ę5ę6Ě7ě8Ě8ę7Ě8ę8Ę6ę7Ě8ę8Ę7ę8Ę8ė4",
  "Ę5ę6Ě7ě8Ě8ę7Ě8ę8Ę6ę7Ě8ę8Ę7ę8Ę8ė5Ę6ę7Ě8ę8Ę7ę8Ę8ė6Ę7ę8Ę8ė7Ę8ė8Ė3ė4Ę5ę6Ě7ě8Ě8ę7Ě8ę8Ę6ę7Ě8ę8Ę7ę8Ę8",
  "ė5Ę6ę7Ě8ę8Ę7ę8Ę8ė6Ę7ę8Ę8ė7Ę8ė8Ė4ė5Ę6ę7Ě8ę8Ę7ę8Ę8ė6Ę7ę8Ę8ė7Ę8ė8Ė5ė6Ę7ę8Ę8ė7Ę8ė8Ė6ė7Ę8ė8Ė7ė8Ė8ĕ2",
  "Ė3ė4Ę5ę6Ě7ě8Ě8ę7Ě8ę8Ę6ę7Ě8ę8Ę7ę8Ę8ė5Ę6ę7Ě8ę8Ę7ę8Ę8ė6Ę7ę8Ę8ė7Ę8ė8Ė4ė5Ę6ę7Ě8ę8Ę7ę8Ę8ė6Ę7ę8Ę8ė7Ę8",
  "ė8Ė5ė6Ę7ę8Ę8ė7Ę8ė8Ė6ė7Ę8ė8Ė7ė8Ė8ĕ3Ė4ė5Ę6ę7Ě8ę8Ę7ę8Ę8ė6Ę7ę8Ę8ė7Ę8ė8Ė5ė6Ę7ę8Ę8ė7Ę8ė8Ė6ė7Ę8ė8Ė7ė8",
  "Ė8ĕ4Ė5ė6Ę7ę8Ę8ė7Ę8ė8Ė6ė7Ę8ė8Ė7ė8Ė8ĕ5Ė6ė7Ę8ė8Ė7ė8Ė8ĕ6Ė7ė8Ė8ĕ7Ė8ĕ8ĄNĂEADĄK PERMITTED HERE",
  "ĄST-FEEDINGăVEĂICKăDE WITH VEILĄGE AT NIGHTăEFCASEąSĂOCCOLIăKEN BAR",
  "ćCIRCLE WITH NORTHWEST ARROWćHEARTăOMăWN HEARTāSāUBBLE TEAĆSĂCKETĂGăINESE END OF SECTION",
  "ĉLETTER AĐBAĐCAĐDAĐGAĐHAĐJAĐKAĐLAĐMAđPAĐNAđGAĒKAđRAđYAĒCAĐPAĐRAĐSAĐTAĐVAĐYAĉPALLAWA",
  "ĉVOWEL SIGN AEĔEĔIĔOĔUĂHID LETTER AčBAčDAčGAčHAčIčKAčLAčMAčNAĎGAčPAčRAčSAčTAčUčWAčYA",
  "ĆVOWEL SIGN IđUĂILDING CONSTRUCTIONĂLLETĆ OPERATORĄHORNĈ WITH SOUND WAVESĄSEYEĂRRITOĂSă STOP",
  "ăT IN SILHOUETTEĄS IN SILHOUETTEĂTTERĆFLYāYTE ORDER MARKĂZANTINE MUSICAL SYMBOL AGOGI ARGI",
  "ĢOTERIğGORGIģOTERIğMESIġTRIAğPOLI ARGIĤGORGIĚNATRICHISMAěTIKENOKYLISMAġMAĚPESO EKFONITIKON",
  "ĠXO NEOěLIěODERMA ARCHAIONĢNEOĜSTROFOI SYNDESMOS NEOĤTELOUS ICHIMATOSĢSģ DIPLIĤNEOĜTHEMAĚRGON",
  "ĝSYNTHETONěKTIKO DIġGAġKEġNIġPAġVOUġZOęCHAMILIğONěOREVMA ARCHAIONĢNEOěROA KLITONğSPATHIğZYGOS",
  "ęDASEIAĚIARGONĜSTOLI APLI MEGALIĨIKRIĢDIPLIĢTHESEOSěESIS APLI DYO DODEKATA",
  "ĠDIGRAMMOS EX DODEKATAĠMONOGRAMMOS TESSERA DODEKATAĠTETARTIMORIONġRIGRAMMOS OKTO DODEKATA",
  "ģTIMORIONěFTOGGOS OUěGORGONġ PARESTIGMENON ARISTERA ANOĹKATOİDEXIAĜRAMMA GGěPLIĞ ARCHAIONĚYO",
  "ęEKSTREPTONĚLAFRONĚNARXIS KAI FTHORA VOUěDOFONONĚPEGERMAĚTERON ARGOSYNTHETONĠPARAKALESMA",
  "ĚXO EKFONITIKONęFANEROSIS DIFONIASģMONOFONIASģTETRAFONIASĚHTORA SKLIRON CHROMA VASIS",
  "ĚTHORA ARCHAIONĨ DEYTEROU ICHOUĠDIATONIKI DIĪKEĪNANAīI ANOĭKATOĪPAĪZOĠENARMONIOS ANTIFONIA",
  "ĠI YFESIS TETARTIMORIONĠMALAKON CHROMA DIFONIASįMONOFONIASĠNAOS ICHOSġENANO",
  "ĠSKLIRON CHROMA SYNAFIįVASISĨDIATONON DIęGENIKI DIESISĠYFESISĚORGON ARCHAIONĠNEO ANOĤKATO",
  "ĠPARESTIGMENON ARISTERAĮDEXIAĞSYNTHETONĜTHMIKON N APLOUNĦDIPLOUNĚRONTHISMATAęICHADINĚMIDIARGON",
  "ĜFONONĝTHORAġONĚSAKIA TELOUS ICHIMATOSěON ARCHAIONĞNEOęKATAVA TROMIKONğSMAĜHISTI",
  "ĚENTIMA ARCHAIONġNEO ANOĥKATOĥMESOĠTAĢ ARCHAIONģNEO ANOħKATOħMESOĚLASMAğ ANOĠKATOĚONTEVMA",
  "ġ ALLOěRONISěUFISMAĚRATIMA ALLOĢRCHAIONġNEOĠTAğOKOUFISMAĠYPORROONěEMASTIĚYLISMA",
  "ęLEIMMA DYO CHRONONĠENOS CHRONOUĠIMISEOS CHRONOUĠTESSARON CHRONONġRION CHRONONěMOIĚYGISMA",
  "ęMARTYRIA ALLI DEYTEROS ICHOSħPROTOS ICHOSĢDEYTEROS ICHOSĢLEGETOS ICHOSĢPLAGIOS ICHOS",
  "ĪTETARTOS ICHOSģROTOS ICHOSħVARYS ICHOSĢTETARTOS ICHOSīLEGETOS ICHOSģRIFONIASĥTOS ICHOS",
  "ĢVARYS ICHOSĚIKRON ISONęNANAęOLIGON ARCHAIONĠNEOĚMALONĚXEIA DIPLIğEKFONITIKONğNEOĞI ARCHAION",
  "ĚYRANISMA ARCHAIONģNEOęPARAKALESMA ARCHAIONĥNEOĞLITIKIĤ ARCHAIONĥNEOĜICHONĚELASTONġ NEO",
  "ěRISPOMENIěTASMAĞTIğOKOUFISMAĚIASMA ARCHAIONĠNEOĚSIFISTOLYGISMAġNĢ NEOġPARAKALESMAġSYNAGMAĜLI",
  "ĝONęRAPISMAĚEVMAęSAXIMATAĚEISMAğ NEOĚIMANSIS ARSEOSĨ DISIMOUĩTETRASIMOUĪRISIMOUĢTHESEOS",
  "ĩ DISIMOUĪTETRASIMOUīRISIMOUĚTAVROSĠ APODEXIAěIGMAěRAGGISMATAĚYNAGMA ARCHAIONġMETA STAVROUġNEO",
  "ĜEVMAěRMAĞTIKIęTELEIAěSSERAěTRAPLIĚHEMAĞ APLOUNĞTISMOS ESOĦXOĜS KAI APOTHESěITAĚINAGMAĚRIA",
  "ĜGORGONĜPLIěOMIKOLYGISMAĠN ALLOģRCHAIONĢNEOĠPARAKALESMAġSIFISTONĠSYNAGMAęVAREIA DIPLI",
  "ĠEKFONITIKONĠNEOğI ARCHAIONěTHYęXIRON KLASMAęYFEN ANOĞKATOĜSIS APLI DYO DODEKATA",
  "ĠDIGRAMMOS EX DODEKATAĠMONOGRAMMOS TESSERA DODEKATAĠTRIGRAMMOS OKTO DODEKATAģTIMORIONĚPOKRISIS",
  "Ģ DIPLIĜRROIěSILIĀCACTUSĂDA UNAăUCEUSĂLENDARăL ME HANDĂMERAĆ WITH FLASHăPINGĂN",
  "ăADIAN SYLLABICS AĔAĕIĕYĔIĕVILIK BĔNĔTHAPASCAN MĞSĔYēBEAVER DENE LğRĔIBLE-CREE YĔLACKFOOT AĝE",
  "ĝIĝKAĞEĞIĞOĝNAĞEĞIĞOĝOĝSĝWĞAĞEĞIĞOēCĔAĕAĖIĕRRIER CHAĝEĞEĝIĝOĝUěDEEĝNE GEEĞTAL SĜIĜLAĝEĞEĝIĝOĝU",
  "ĜZAĝEĞEĝIĝOĝUěEEěGAĝAĜEĝEĜHAĝEĞEĝIĝOĝUĜIĜOĜUĜWAĝUěHĜEEĜIĜWAĝEĞEĝIĝOĝUěIĜNITIAL ZěJAĜEĝEĜIĜJAĝE",
  "ĞEĝIĝOĝUĜOĜUĜWAěKHAĝEĞEĝIĝOĝUĜKĝAĝEĞEĝIĝOĝUěLAĜEĝEĜHAĝEĞEĝIĝOĝUĜIĜOĜUěMAĜEĝEĜIĜOĜUěNAĜEĝEĜGĜI",
  "ĜOĜUěPĜAĜEĝEĜIĜOĜUěRAĜEĝEĜIĜOĜUěSAĜEĝEĜHĝAĝEĞEĝIĝOĝUĜIĜOĜUěTHAĝEĞEĝIĝOĝUĜLAĝEĞEĝHAĞEğEĞIĞOĞUĝI",
  "ĝOĝUĜSAĝEĞEĝIĝOĝUĜTAĝEĞEĝIĝOĝSAĞEğEĞIĞOĞUĝUěWAĜEĝEĜIĜOĜUěYAĜEĝEĜIĜOĜUěZĜAĜEĝEĜIĜOĜUĔEĔHI SIGN",
  "ĔIĕIĔOĕOĔWAĖAĕEĕIĖIĕOĖOēEĔASTERN WĔNēFĔAĕAĖIĔEĔIĕIĕNAL ACUTEęBOTTOM HALF RINGęDOUBLE ACUTE",
  "ĠSHORT VERTICAL STROKESěWN TACKęGRAVEęMIDDLE DOTęPLUSęRAISED DOTĚIGHT HALF RINGěNG",
  "ęSHORT HORIZONTAL STROKEĚMALL RINGęTOP HALF RINGĔOĕOĔULL STOPĔWAAēGLOTTAL STOPēHKĔYPHENēIĔIĔN",
  "ēKĔAĕAĖIĕYĔEĔIĕIĔOĕOĔWĕAĖAĖYĕEĕIĖIĕOĖOēLĔAĕAĖIĕYĔEĔHĕAĖAĕIĖIĕOĖOĔIĕIĔOĕOĔWAĖAĕEĕIĖIĕOĖOēMĔAĕA",
  "ĖIĕYĔEĕDIAL LĚRĔHĔIĕIĔOĕOĖSE-CREE SKĔWAĖAĕEĕIĖIĕOĖOēNĔ-CREE THEĜIĝIĔAĕAĖIĕSKAPI CWAAěKWAAěMWAA",
  "ěNWAAěS-WĜCWAĜKWĞAĜPWAĜTWAĜWAAěTWAAěWAAĜOOěYWAAĕTTILIK HAĞAĝIĞIĝOĞOĜSHRAĠAğIĠIğOĠOĕYĔEĔGĕAĖAėI",
  "ĖIĕIĖIĕOĖOĔHĔIĕIĔNGĖAėAĖIėIĖOėOĔOĕOĕYĔUNAVIK HĜAĝAĜEĜIĝIĜOĝOĘUT HĔWAĖAĕEĕIĖIĕOĖOēOĔJIBWAY CěK",
  "ěMěNĜWIĞIĝOĞOěPěSĜHěTĔNĔOĔYēPĔAĕAĖIĕYĔEĔIĕIĔOĕOĕYĔWAĖAĕEĕIĖIĕOĖOĖYēQĔAĕAĖIĕIĔIĕIĔOĕOēR",
  "Ĕ-CREE REěWEĔAĕAĖIĕYĔEĔIĕIĔOĕOĔWAĖAĕEEĕIĖIĕOĖOēSĔAĕAĖIĕYĖISI HAěEěIěOĜOĚJIěUĜUĚMĚSHAĜEĜIĜOĝO",
  "ĜWEĚTHĚYIĔEĔHĕAĖAĖYĕEĕIĖIĕOĖOĖYĕWAėAĖEĖIėIĖOėOėYĔIĕIĔOĕOĕUTH-SLAVEY KAHġEHġIHġOHĕYĔPAĕEĕIĕOĔW",
  "ĕAĖAĕEĕIĖIĕOĖOēTĔAĕAĖIĕYĔEĔHĕ-CREE THĝAĞAĝEĝIĞIĝOĞOĕAĖAĕEĕIĖIĕOĖOĕWAėAĖEĔIĕIĔLHAĖEĖIĖOėOĖWEĔO",
  "ĕOĔTAĕEĕHĖAėAĖEĖIĖOėOĖWEĕIĕOĔWAĖAĕEĕIĖIĕOĖOĔYAĕEĕIĕOēWAĕAĕYĔEĕST-CREE CWAĠAğEğIĠIğOĠOĝFWAAĝKWA",
  "ĠAğEğIĠIğOĠOĝLĞAğAĞEĞOğOĞWAĠAğEğIĠIğOĠOĝMĞWAĠAğEğIĠIğOĠOĝNWAĠAğEĝPĞWAĠAğEğIĠIğOĠOĝRĞAĞEĞIĞO",
  "ĞWAAĝSHWAġAĠEĠIġIĠOġOĞWAĠAğEğIĠIğOĠOĝTHWAAĞWAĠAğEğIĠIğOĠOĝWAğAĞEĞIğIĞOğOĝYĞWAĠAğEğIĠIğOĠO",
  "ėERN WĔIĕIĔOĕOĖDS-CREE FINAL THĞTHĠAĠEĠIĠOĠWAĢAġEEġIĢIġOĢOēYĔ-CREE COOĚKOOĚLOOĚMOOĚNOOĚOOĚPOO",
  "ěWAAĚSOOĚTOOĚWĚYOOĔAĕAĖIĕYĔEĔIĕIĔOĕOĕYĔWAĖAĕEĕIĖIĕOĖOăCELĆ CHARACTERćTAGĆLATION XąRăDLEĄY",
  "ăNED FOODăOEĂPITULUMăRICORNĂR SLIDINGăD FILE BOXąINDEXĊ DIVIDERSăE OFĄTą INSERTION POINT",
  "ăIAN LETTER Aď2ĎBĎC-18Đ39ĎDď2ĎEď2ĎGď2ĎIďIĎKď2ĎLďDĐ2ĎMďBĐ2Đ3Đ4ĎNďDďGďNĎOĎPď2ĎQĎRďRĎSďHĐ2ďSďTĐ2",
  "ĎTďTĐ2ĎUďUĐUđ2đ3đUĎXăONĄUSEL HORSEăP STREAMERĄENTRY SAWăRIAGE RETURNĄOTĂSTLEĂTă FACE",
  "Ĉ WITH TEARS OF JOYĎWRY SMILEĂUCASIAN ALBANIAN CITATION MARKēLETTER ALTěORĚBETĚCARĜYNěHAĝTĜI",
  "ĜOYěYAWĝYĚDATěYANěZAYĜYAYĚEBěYNĚFAMĚGHEYSěIMĚHEYTĚINYAěRBěWNĚJAYNěHOXĚKARěIWĚLANěYITĚMAQĚNOWC",
  "ĚONĚPENěIWRĚQARĜYĚRATĚSEYKěHAĝKĜOYĚTASěIWRěYAYĚVEYZĚXEYNĚYAYDěOWDĚZARLěHAĜILăTION SIGNāCH",
  "āEDI SIGNĄLLAĂLTIC CROSSĂNT SIGNĄRE LINE SYMBOLĆLINE LOW LINEċOVERLINEĂRESāGJāHAINSĄR",
  "ăKMA AU MARKćDANDAĈIGIT EIGHTčFIVEĎOURčNINEčONEčSEVENĎIXčTHREEĎWOčZEROĈOUBLE DANDAćLETTER AA",
  "ĎBAAďHAAĎCAAďHAAĎDAAďDAAĐHAAďHAAĎEĎGAAďHAAĎHAAĎIĎJAAďHAAĎKAAďHAAĎLAAďHAAĎMAAĎNAAďGAAďNAAďYAA",
  "ĎPAAďHAAĎRAAĎSAAĎTAAďHAAďTAAĐHAAĎUĎVAAĎWAAĎYAAďYAAćMAAYYAAćO MARKćQUESTION MARKćSECTION MARK",
  "ĈIGN ANUSVARAČCANDRABINDUČVISARGAćVIRAMAĈOWEL SIGN AēAēIēUĒEēIĒIēIĒOēIĒUēU",
  "ăM CONSONANT SIGN FINAL HĚMĚNGĔLAĔRAĔWAĔYAąDIGIT EIGHTċFIVEČOURċNINEċONEċSEVENČIXċTHREEČWO",
  "ċZEROąLETTER AčIČBAčBAčHAČCHAĎHAČDAčDAčHAČEČFINAL CHĒGĒKĒLĒNēGĒPĒRĒSSĒTĒYČGAčHAČHAČIČJAčHAČKA",
  "čHAČLAČMAčUEČNAčGAĎUEčHAĎJAĎUEčUEČOČPAčHAčPAČRAČSAčSAČTAčHAČUČVAČYAąPUNCTUATION DANDA",
  "ĒOUBLE DANDAđSPIRALđTRIPLE DANDAąVOWEL SIGN AAđIđUĐEIĐIđIĐOđEĐUđEăRACTER TABULATIONĔ SET",
  "ĕWITH JUSTIFICATIONċIEĄT WITH DOWNWARDS TRENDċUPWARDS TRENDĘ AND YEN SIGNĂECK MARKąER BOARD",
  "č FILLăERING MEGAPHONEĄSE WEDGEăQUERED FLAGăROKEE LETTER AĐDAđEđIđLAđOđUđVĐEĐGAđEđIđOđUđVĐHAđE",
  "đIđNAđOđUđVĐIĐKAĐLAđEđIđOđUđVĐMAđEđIđOđUđVĐNAĒHđEđIđOđUđVĐOĐQUAĒEĒIĒOĒUĒVĐSđAđEđIđOđUđVĐTAđEđI",
  "đLAĒEĒIĒOĒUĒVđSAĒEĒIĒOĒUĒVĐUĐVĐWAđEđIđOđUđVĐYAđEđIđOđUđVĉSMALL LETTER AĖDAėEėIėLAėOėUėVĖEĖGAėE",
  "ėIėOėUėVĖHAėEėIėNAėOėUėVĖIĖKAĖLAėEėIėOėUėVĖMAėEėIėOėUėVĖNAĘHėEėIėOėUėVĖOĖQUAĘEĘIĘOĘUĘVĖSėAėEėI",
  "ėOėUėVĖTAėEėIėLAĘEĘIĘOĘUĘVėSAĘEĘIĘOĘUĘVĖUĖVĖWAėEėIėOėUėVĖYAėEėIėOėUėVĄRIESąY BLOSSOMăSTNUT",
  "ĂI RHOăCKENăLDąREN CROSSINGăPMUNKăRONĂOCOLATE BARăPSTICKSăRASMIAN LETTER ALEPHēYINĒBETH",
  "ĒCURLED WAWĒDALETHĒGIMELĒHEĔTHĒKAPHĒLAMEDHĒMEMĒNUNĒPEĒRESHĒSAMEKHēHINēMALL ALEPHĒTAWĒWAWĒYODH",
  "ĒZAYINċNUMBER FOURĒONEĕ HUNDREDĒTENēHREEēWENTYĔOĂRISTMAS TREEĂURCHāINEMA",
  "ĂRCLE DIVIDED BY HORIZONTAL BAR AND TOP HALF DIVIDED BY VERTICAL BAR",
  "ćWITH ALL BUT UPPER LEFT QUADRANT BLACKČHORIZONTAL BARČLEFT HALF BLACKčOWER HALF BLACK",
  "ČRIGHT HALF BLACKČSMALL CIRCLE TO THE RIGHTčUPERIMPOSED XČTWO HORIZONTAL STROKES TO THE RIGHT",
  "ČUPPER HALF BLACKĒRIGHT QUADRANT BLACKČVERTICAL FILLĆD ANTICLOCKWISE ARROW",
  "ĕ-ROTATED DIVISION SIGNĉSTERISK OPERATORĈBOLD XĉULLETĈC WITH OVERLAID BACKSLASHĉCĉD",
  "ĉROSS FORMEEĔ WITH FOUR DOTSĚTWO DOTSĎPOMMEEčING LANESĈDASHĉIGIT EIGHTĎFIVEďOURĎNINEĎONEĎSEVEN",
  "ďIXĎTHREEďWOĎZEROĊVISION SIGNĒLASHĉOLLAR SIGN WITH OVERLAID BACKSLASHĊT OPERATORĈEQUALS",
  "ĈGREATER-THANĈHANGUL CHIEUCHĖ AĐIEUCĔ AďHIEUHĔ AďIEUNGĔ AĕUďKHIEUKHĖ AĐIYEOKĕ AďMIEUMĔ AďNIEUN",
  "Ĕ AďPHIEUPHĖ AĐIEUPĔ AďRIEULĔ AďSIOSē AďTHIEUTHĖ AĐIKEUTĕ AĉEAVY WHITE RIGHTWARDS ARROW",
  "ĉORIZONTAL BAR WITH NOTCHĉUMAN FIGUREĈIDEOGRAPH ACCEPTēDVANTAGEēLLIANCEēTTENTIONĒCENTRE",
  "ēONGRATULATIONĔPYĔRRECTĒEARTHēIGHTēNTERPRISEēXCELLENTĒFEMALEēINANCIALĔREĔVEēOURĒHAVEēIGHĒITEM",
  "ĒKINDERGARTENēOTOĒLABORēEFTēOWĒMALEēEDICINEĔTALēOONĒNAMEēIGHTĔNEĒONEĒPRINTĒQUESTIONĒRELIGION",
  "ĔSOURCEĕTēIGHTĒSCHOOLēECRETĔVENēIXēOCIETYēPECIALēTOCKĔUDYēUITABLEĔNĔPERVISEĒTENēHREEēWOĒWATER",
  "ēOODĉNFORMATION SOURCEĉTALIC LATIN CAPITAL LETTER CĤRĈKATAKANA AđEđHAĒEĒIĒOĒUđIđKAĒEĒIĒOĒUđMA",
  "ĒEĒIĒOĒUđNAĒEĒIĒOĒUđOđRAĒEĒIĒOĒUđSAĒEĒIĒOĒUđTAĒEĒIĒOĒUđUđWAĒEĒIĒOđYAĒOĒU",
  "ĉOREAN CHARACTER CHAMKOęJUEUIĈLATIN CAPITAL LETTER AĝBĝCĝDĝEĝFĝGĝHĝIĝJĝKĝLĝMĝNĝOĝPĝQĝRĝSĝTĝUĝV",
  "ĝWĝXĝYĝZĎSMALL LETTER AěBěCěDěEěFěGěHěIěJěKěLěMěNěOěPěQěRěSěTěUěVěWěXěYěZĉESS-THANĈMINUS",
  "ĉULTIPLICATION SIGN WITH CIRCUMFLEX ACCENTĈNUMBER EIGHTEENĔY ON BLACK SQUAREĐLEVENďFIFTEENēY",
  "Ĕ ON BLACK SQUAREĐORTYĔ EIGHTĕFIVEĖOURĕNINEĕON BLACK SQUAREėEĕSEVENĖIXĕTHREEĖWOđURTEEN",
  "ďNINETEENďSEVENTEENĕY ON BLACK SQUAREĐIXTEENēY ON BLACK SQUAREďTENĒ ON BLACK SQUAREĐHIRTEENĔY",
  "ĕ EIGHTĖFIVEėOURĖNINEĖON BLACK SQUAREĘEĖSEVENėIXĖTHREEėWOĐWELVEĒNTYĕ EIGHTĖFIVEėOURĖNINE",
  "ĖON BLACK SQUAREĘEĖSEVENėIXĖTHREEėWOĈOPEN CENTRE EIGHT POINTED STARĈPARALLELĉERPENDICULARĉLUS",
  "ĉOSTAL MARKĈREVERSE SOLIDUSĉING OPERATORĈSQUAREĈTIMESĉRIANGLEĐ DOWNĈVERTICAL BARĈWHITE BULLET",
  "ĎSTARĉZĈXĈZERO WITH SLASHĄULATION FUNCTIONąMFLEX ACCENTąS TENTĂTYSCAPEĉ AT DUSK",
  "āJK COMPATIBILITY IDEOGRAPH-2F800Ġ1Ġ2Ġ3Ġ4Ġ5Ġ6Ġ7Ġ8Ġ9ĠAĠBĠCĠDĠEĠFğ10Ġ1Ġ2Ġ3Ġ4Ġ5Ġ6Ġ7Ġ8Ġ9ĠAĠBĠCĠDĠE",
  "ĠFğ20Ġ1Ġ2Ġ3Ġ4Ġ5Ġ6Ġ7Ġ8Ġ9ĠAĠBĠCĠDĠEĠFğ30Ġ1Ġ2Ġ3Ġ4Ġ5Ġ6Ġ7Ġ8Ġ9ĠAĠBĠCĠDĠEĠFğ40Ġ1Ġ2Ġ3Ġ4Ġ5Ġ6Ġ7Ġ8Ġ9ĠAĠB",
  "ĠCĠDĠEĠFğ50Ġ1Ġ2Ġ3Ġ4Ġ5Ġ6Ġ7Ġ8Ġ9ĠAĠBĠCĠDĠEĠFğ60Ġ1Ġ2Ġ3Ġ4Ġ5Ġ6Ġ7Ġ8Ġ9ĠAĠBĠCĠDĠEĠFğ70Ġ1Ġ2Ġ3Ġ4Ġ5Ġ6Ġ7Ġ8",
  "Ġ9ĠAĠBĠCĠDĠEĠFğ80Ġ1Ġ2Ġ3Ġ4Ġ5Ġ6Ġ7Ġ8Ġ9ĠAĠBĠCĠDĠEĠFğ90Ġ1Ġ2Ġ3Ġ4Ġ5Ġ6Ġ7Ġ8Ġ9ĠAĠBĠCĠDĠEĠFğA0Ġ1Ġ2Ġ3Ġ4Ġ5",
  "Ġ6Ġ7Ġ8Ġ9ĠAĠBĠCĠDĠEĠFğB0Ġ1Ġ2Ġ3Ġ4Ġ5Ġ6Ġ7Ġ8Ġ9ĠAĠBĠCĠDĠEĠFğC0Ġ1Ġ2Ġ3Ġ4Ġ5Ġ6Ġ7Ġ8Ġ9ĠAĠBĠCĠDĠEĠFğD0Ġ1Ġ2",
  "Ġ3Ġ4Ġ5Ġ6Ġ7Ġ8Ġ9ĠAĠBĠCĠDĠEĠFğE0Ġ1Ġ2Ġ3Ġ4Ġ5Ġ6Ġ7Ġ8Ġ9ĠAĠBĠCĠDĠEĠFğF0Ġ1Ġ2Ġ3Ġ4Ġ5Ġ6Ġ7Ġ8Ġ9ĠAĠBĠCĠDĠEĠF",
  "Ğ900Ġ1Ġ2Ġ3Ġ4Ġ5Ġ6Ġ7Ġ8Ġ9ĠAĠBĠCĠDĠEĠFğ10Ġ1Ġ2Ġ3Ġ4Ġ5Ġ6Ġ7Ġ8Ġ9ĠAĠBĠCĠDĠEĠFğ20Ġ1Ġ2Ġ3Ġ4Ġ5Ġ6Ġ7Ġ8Ġ9ĠAĠBĠC",
  "ĠDĠEĠFğ30Ġ1Ġ2Ġ3Ġ4Ġ5Ġ6Ġ7Ġ8Ġ9ĠAĠBĠCĠDĠEĠFğ40Ġ1Ġ2Ġ3Ġ4Ġ5Ġ6Ġ7Ġ8Ġ9ĠAĠBĠCĠDĠEĠFğ50Ġ1Ġ2Ġ3Ġ4Ġ5Ġ6Ġ7Ġ8Ġ9",
  "ĠAĠBĠCĠDĠEĠFğ60Ġ1Ġ2Ġ3Ġ4Ġ5Ġ6Ġ7Ġ8Ġ9ĠAĠBĠCĠDĠEĠFğ70Ġ1Ġ2Ġ3Ġ4Ġ5Ġ6Ġ7Ġ8Ġ9ĠAĠBĠCĠDĠEĠFğ80Ġ1Ġ2Ġ3Ġ4Ġ5Ġ6",
  "Ġ7Ġ8Ġ9ĠAĠBĠCĠDĠEĠFğ90Ġ1Ġ2Ġ3Ġ4Ġ5Ġ6Ġ7Ġ8Ġ9ĠAĠBĠCĠDĠEĠFğA0Ġ1Ġ2Ġ3Ġ4Ġ5Ġ6Ġ7Ġ8Ġ9ĠAĠBĠCĠDĠEĠFğB0Ġ1Ġ2Ġ3",
  "Ġ4Ġ5Ġ6Ġ7Ġ8Ġ9ĠAĠBĠCĠDĠEĠFğC0Ġ1Ġ2Ġ3Ġ4Ġ5Ġ6Ġ7Ġ8Ġ9ĠAĠBĠCĠDĠEĠFğD0Ġ1Ġ2Ġ3Ġ4Ġ5Ġ6Ġ7Ġ8Ġ9ĠAĠBĠCĠDĠEĠFğE0",
  "Ġ1Ġ2Ġ3Ġ4Ġ5Ġ6Ġ7Ġ8Ġ9ĠAĠBĠCĠDĠEĠFğF0Ġ1Ġ2Ġ3Ġ4Ġ5Ġ6Ġ7Ġ8Ġ9ĠAĠBĠCĠDĠEĠFĞA00Ġ1Ġ2Ġ3Ġ4Ġ5Ġ6Ġ7Ġ8Ġ9ĠAĠBĠCĠD",
  "ĠEĠFğ10Ġ1Ġ2Ġ3Ġ4Ġ5Ġ6Ġ7Ġ8Ġ9ĠAĠBĠCĠDĜF900ğ1ğ2ğ3ğ4ğ5ğ6ğ7ğ8ğ9ğAğBğCğDğEğFĞ10ğ1ğ2ğ3ğ4ğ5ğ6ğ7ğ8ğ9ğAğB",
  "ğCğDğEğFĞ20ğ1ğ2ğ3ğ4ğ5ğ6ğ7ğ8ğ9ğAğBğCğDğEğFĞ30ğ1ğ2ğ3ğ4ğ5ğ6ğ7ğ8ğ9ğAğBğCğDğEğFĞ40ğ1ğ2ğ3ğ4ğ5ğ6ğ7ğ8",
  "ğ9ğAğBğCğDğEğFĞ50ğ1ğ2ğ3ğ4ğ5ğ6ğ7ğ8ğ9ğAğBğCğDğEğFĞ60ğ1ğ2ğ3ğ4ğ5ğ6ğ7ğ8ğ9ğAğBğCğDğEğFĞ70ğ1ğ2ğ3ğ4ğ5",
  "ğ6ğ7ğ8ğ9ğAğBğCğDğEğFĞ80ğ1ğ2ğ3ğ4ğ5ğ6ğ7ğ8ğ9ğAğBğCğDğEğFĞ90ğ1ğ2ğ3ğ4ğ5ğ6ğ7ğ8ğ9ğAğBğCğDğEğFĞA0ğ1ğ2",
  "ğ3ğ4ğ5ğ6ğ7ğ8ğ9ğAğBğCğDğEğFĞB0ğ1ğ2ğ3ğ4ğ5ğ6ğ7ğ8ğ9ğAğBğCğDğEğFĞC0ğ1ğ2ğ3ğ4ğ5ğ6ğ7ğ8ğ9ğAğBğCğDğEğF",
  "ĞD0ğ1ğ2ğ3ğ4ğ5ğ6ğ7ğ8ğ9ğAğBğCğDğEğFĞE0ğ1ğ2ğ3ğ4ğ5ğ6ğ7ğ8ğ9ğAğBğCğDğEğFĞF0ğ1ğ2ğ3ğ4ğ5ğ6ğ7ğ8ğ9ğAğBğC",
  "ğDğEğFĝA00ğ1ğ2ğ3ğ4ğ5ğ6ğ7ğ8ğ9ğAğBğCğDğEğFĞ10ğ1ğ2ğ3ğ4ğ5ğ6ğ7ğ8ğ9ğAğBğCğDğEğFĞ20ğ1ğ2ğ3ğ4ğ5ğ6ğ7ğ8ğ9",
  "ğAğBğCğDğEğFĞ30ğ1ğ2ğ3ğ4ğ5ğ6ğ7ğ8ğ9ğAğBğCğDğEğFĞ40ğ1ğ2ğ3ğ4ğ5ğ6ğ7ğ8ğ9ğAğBğCğDğEğFĞ50ğ1ğ2ğ3ğ4ğ5ğ6",
  "ğ7ğ8ğ9ğAğBğCğDğEğFĞ60ğ1ğ2ğ3ğ4ğ5ğ6ğ7ğ8ğ9ğAğBğCğDĞ70ğ1ğ2ğ3ğ4ğ5ğ6ğ7ğ8ğ9ğAğBğCğDğEğFĞ80ğ1ğ2ğ3ğ4ğ5",
  "ğ6ğ7ğ8ğ9ğAğBğCğDğEğFĞ90ğ1ğ2ğ3ğ4ğ5ğ6ğ7ğ8ğ9ğAğBğCğDğEğFĞA0ğ1ğ2ğ3ğ4ğ5ğ6ğ7ğ8ğ9ğAğBğCğDğEğFĞB0ğ1ğ2",
  "ğ3ğ4ğ5ğ6ğ7ğ8ğ9ğAğBğCğDğEğFĞC0ğ1ğ2ğ3ğ4ğ5ğ6ğ7ğ8ğ9ğAğBğCğDğEğFĞD0ğ1ğ2ğ3ğ4ğ5ğ6ğ7ğ8ğ9",
  "ĄRADICAL BAMBOOčLUEčOLT OF CLOTHĎNEĎXčRUSH ONEĒTWOČC-SIMPLIFIED BIRDęCARTęDRAGONęEATĚVENęFISH",
  "ĚLYĚROGęGATEĚOLDęHORSEęLEAFĚONGęSALTĚEEĚHELLĚILKĚPEECHęTANNED LEATHERĚOOTHĚURTLEęWINDčHOKEčITY",
  "ĎVILIANčLIFFĎOTHESčOWČDEATHčIVINATIONčOGČEAT ONEĐTHREEđWOčWEčYEČFIREčOOTČGHOSTčRASS ONEĒTHREE",
  "ēWOČHANDčEADďRT ONEĒTWOčORNČJ-SIMPLIFIED DRAGONęEVENęTOOTHĚURTLEčADEČKNIFE ONEĒTWOČLAME FOUR",
  "đONEđTHREEĒWOčONG ONEđTWOČMEATĎSHčOONĎRTARĎTHERĎUND ONEĒTWOČNET FOURĐONEĐTHREEđWOČOLDČPAW ONE",
  "ĐTWOčERSONČRAINĎMĎPčEPEATČSEALĎCOND ONEēTHREEĔWOčHEEPčILKĎMPLIFIED HALF TREE TRUNKĘORNėWALK",
  "ĘHEATėYELLOWčMALL ONEĒTWOčNAKEĎOUT ONEĒTWOčPIRIT ONEēTWOčUNČTABLEčHREADčIGERčURTLEČWALK ONE",
  "đTWOĎTER ONEĒTWOčEST ONEđTWOĄSTROKE BXGċDċHČGČPčWGČXWGČZčGčTčWĎGčZĎPĎZďGċNċPČDČGČZċQċSČGČPČTČW",
  "čGčZČZčWGčZċTČNċWGċXGāLAMSHELL MOBILE PHONEăPPER BOARDąING HANDS SIGNăSSICAL BUILDING",
  "ĂEAR SCREEN SYMBOLĂINKING BEER MUGSĉGLASSESăPBOARDĂOCK FACE EIGHT OCLOCKĐ-THIRTYČLEVEN OCLOCK",
  "đ-THIRTYċFIVE OCLOCKď-THIRTYČOUR OCLOCKď-THIRTYċNINE OCLOCKď-THIRTYċONE OCLOCKĎ-THIRTY",
  "ċSEVEN OCLOCKĐ-THIRTYČIX OCLOCKĎ-THIRTYċTEN OCLOCKĎ-THIRTYČHREE OCLOCKĐ-THIRTYČWELVE OCLOCK",
  "đ-THIRTYčO OCLOCKĎ-THIRTYąWISE CLOSED CIRCLE ARROWċONTOUR INTEGRAL",
  "ĊDOWNWARDS AND UPWARDS OPEN CIRCLE ARROWSĊGAPPED CIRCLE ARROWĊINTEGRALĊOPEN CIRCLE ARROW",
  "ĊRIGHT AND LEFT SEMICIRCLE ARROWSďWARDS AND LEFTWARDS OPEN CIRCLE ARROWS",
  "ĵ WITH CIRCLED ONE OVERLAYĊTOP SEMICIRCLE ARROWċRIANGLE-HEADED OPEN CIRCLE ARROWăSE UPąD BOOK",
  "ćINTERSECTION WITH SERIFSćLOCK WITH KEYćMAILBOX WITH LOWERED FLAGĔRAISED FLAGćSUBSET",
  "č OR EQUAL TOĉPERSETď OR EQUAL TOćUMBRELLAĈNION WITH SERIFSĘ AND SMASH PRODUCTăUD",
  "ą WITH LIGHTNINGċRAINċSNOWċTORNADOăWN FACEāOATĂCKROACHĄTAIL GLASSăONUTĂFFINĂINĂLLISION SYMBOL",
  "ăONą EQUALSĆSIGNĂMBINING ACUTE ACCENTĖ BELOWĐTONE MARKď-GRAVE-ACUTEĐMACRON",
  "ċLMOST EQUAL TO ABOVEĚBELOWċNNUITY SYMBOLČTICLOCKWISE ARROW ABOVEĘRING OVERLAYċSTERISK ABOVE",
  "ēBELOWĊBINDU BELOWċREVEď BELOWď-MACRONČIDGE ABOVEđBELOWĊCANDRABINDUČRONď BELOWċEDILLA",
  "ċIRCUMFLEX ACCENTě BELOWċLOCKWISE ARROW ABOVEĔRING OVERLAYċOMMA ABOVEĕ RIGHTĐBELOW",
  "ČNJOINING MACRONě BELOWċYRILLIC DASIA PNEUMATAēHUNDRED MILLIONS SIGNěTHOUSANDS SIGNēKAVYKA",
  "ēLETTER AĚBEěIG YUSĚCHEĚDEěJERVĚEFěLěMěNěRěSĜ-TEĚFITAĚGHEĚHAĜRD SIGNĚIěEěOTIFIED AģBIG YUSģE",
  "ĚKAĚLITTLE YUSĚMONOGRAPH UKĚOěMEGAĚPEĚSHAĜCHAěOFT SIGNĚTEěSEĚUěKRAINIAN IEĚVEĚYATěERUěIěUĚZE",
  "ěHEēMILLIONS SIGNēPALATALIZATIONĕYEROKĔOKRYTIEĔSILI PNEUMATAēTEN MILLIONS SIGN",
  "ĔHOUSAND MILLIONS SIGNĔITLOĘ LEFT HALFęRIGHT HALFēVZMETĊDELETION MARKČVANAGARI DIGIT EIGHT",
  "ěFIVEĜOURěNINEěONEěSEVENĜIXěTHREEĜWOěZEROĕLETTER AĜKAĜNAĜPAĜRAĜUĜVIĕSIGN AVAGRAHAċIAERESIS",
  "ē BELOWē-RINGċOT ABOVEē LEFTĔRIGHTĎBELOWē LEFTčTED ACUTE ACCENTđGRAVE ACCENTČUBLE ACUTE ACCENT",
  "đBREVEĖ BELOWđCIRCUMFLEX ABOVEđGRAVE ACCENTđINVERTED BREVEğ BELOWđLOW LINEđMACRONė BELOW",
  "đOPEN MARK BELOWĒVERLINEđPARENTHESES ABOVEĒLUS SIGN ABOVEěBELOWđRIGHTWARDS ARROW BELOW",
  "ēNG BELOWđTILDEĖ LEFT HALFėRIGHT HALFđVERTICAL LINE ABOVEğBELOWĚSTROKE OVERLAY",
  "ĐD CIRCUMFLEX ACCENTČWN TACK BELOWĎWARDS ARROWĊENCLOSING CIRCLEĚ BACKSLASHĔDIAMONDĔKEYCAP",
  "ĔSCREENĕQUAREĔUPWARD POINTING TRIANGLEċQUALS SIGN BELOWĊFERMATAċOUR DOTS ABOVE",
  "ĊGLAGOLITIC LETTER AZUĜBIG YUSĝUKYĜCHRIVIĜDJERVIĝOBROĜFITAĝRITUĜGLAGOLIĜHERUĜIĝNITIAL IZHE",
  "ĝOTATED BIG YUSĤSMALL YUSĝZHEĜKAKOĜLJUDIJEĜMYSLITEĜNASHIĜONUĜPOKOJIĜRITSIĜSHAĞTAĝLOVOĝMALL YUS",
  "ĜTSIĝVRIDOĜUKUĜVEDEĜYATIĝERIğUĞSTUĝOĝUĜZEMLJAĝHIVETEċRANTHA DIGIT FIVEęOURĘONEĘSIXĘTHREEęWO",
  "ĘZEROĒLETTER AęKAęNAęPAęVIčPHEME JOINERčVE ACCENTĖ BELOWĐTONE MARKď-ACUTE-GRAVEĐMACRON",
  "ČEEK DIALYTIKA TONOSĐKORONISĐMUSICAL PENTASEMEĘTETRASEMEęRISEMEĐPERISPOMENIĐYPOGEGRAMMENI",
  "ĊHOMOTHETIC ABOVEČOK ABOVEČRNĊINFINITYČVERTED BREVEĘ BELOWĕIDGE BELOWēDOUBLE ARCH ABOVEğBELOW",
  "ċS BELOWĊKATAKANA-HIRAGANA SEMI-VOICED SOUND MARKĜVOICED SOUND MARKČVYKA ABOVE LEFTėRIGHT",
  "ĊLATIN LETTER SMALL CAPITAL GĥLĥMĥNĥRĐSMALL LETTER AĞ WITH DIAERESISĞEĞLPHAĞOĞVĝBĞETAĝC",
  "Ğ CEDILLAĝDĝEĞSHĞTHĝFĞLATTENED OPEN A ABOVEĝGĝHĝIĞNSULAR DĥGĥRĥTĝKĝLĞ WITH DOUBLE MIDDLE TILDE",
  "ĞONG SĝMĝNĝOĞ WITH DIAERESISĤLIGHT CENTRALIZATION STROKEĝPĝRĞ BELOWğROTUNDAĝSĞCHWAĝT",
  "ĞURNED W BELOWĝUĞ WITH DIAERESISĤLIGHT CENTRALIZATION STROKEĝVĝWĞ BELOWĝXĝZċEFT ANGLE ABOVE",
  "ĕBELOWĐRROW ABOVEĕBELOWĔHEAD ABOVEęBELOWďHALF RING ABOVEęBELOWđRPOON ABOVE",
  "ďPARENTHESIS ABOVE LEFTěBELOW LEFTďRIGHT ARROW ABOVEěBELOWďTACK BELOWĎWARDS ARROW OVERLAY",
  "ĔHARPOON WITH BARB DOWNWARDSċIGATURE LEFT HALFĜ BELOWēRIGHT HALFĝ BELOW",
  "čHT CENTRALIZATION STROKE BELOWċONG DOUBLE SOLIDUS OVERLAYďSOLIDUS OVERLAYĐTROKE OVERLAY",
  "ďVERTICAL LINE OVERLAYČW LINEĊMACRONĐ BELOWđLEFT HALFĚ BELOWđRIGHT HALFě BELOWĐ-ACUTEđBREVE",
  "đGRAVEċINUS SIGN BELOWĊNOT TILDE ABOVEċUMBER SIGN ABOVEĊOGONEKĐ ABOVEċLD PERMIC LETTER ANĜDOI",
  "ĜNENOEĜSIIĜZATAċPEN MARK BELOWċVERLINEĊPALATALIZED HOOK BELOWČRENTHESES ABOVEĖBELOWĖOVERLAY",
  "ċLUS SIGN ABOVEĔBELOWĊRETROFLEX HOOK BELOWČVERSE SOLIDUS OVERLAYđD COMMA ABOVE",
  "ċIGHT ARROW ABOVEĖBELOWĕHEAD ABOVEěND DOWN ARROWHEAD BELOWĞUP ARROWHEAD BELOWĚBELOW",
  "ĐHALF RING ABOVEĚBELOWĒRPOON ABOVEĐPARENTHESIS ABOVE RIGHTĜBELOW RIGHTĐTACK BELOW",
  "ďWARDS HARPOON WITH BARB DOWNWARDSČNG ABOVEďBELOWďOVERLAYĊSEAGULL BELOWċHORT SOLIDUS OVERLAY",
  "đTROKE OVERLAYĐVERTICAL LINE OVERLAYċNAKE BELOWċQUARE BELOWĒRACKETS ABOVE",
  "ċTRONG CENTRALIZATION STROKE BELOWċUSPENSION MARKĊTHREE DOTS ABOVEċILDEď BELOWĐLEFT HALF BELOW",
  "ĐOVERLAYĐRIGHT HALF BELOWċRIPLE ACUTE ACCENTđDOTđUNDERDOTċURNED COMMA ABOVEĊUP TACK ABOVE",
  "ĒBELOWČWARDS ARROW BELOWċR ABOVEċS ABOVEĊVERTICAL LINE ABOVEĘBELOWēTILDEĊWIDE BRIDGE ABOVE",
  "ďINVERTED BRIDGE BELOWČGGLY LINE BELOWĊX ABOVEČBELOWċ-X BELOWĊZIGZAG ABOVEđBELOWăETăMA",
  "ĄERCIAL ATċMINUS SIGNăPASSĄLEMENTĄOSITION SYMBOLĄRESSIONĂNFETTI BALLĄOUNDED FACEĄUSED FACE",
  "ăGRUENT WITH DOT ABOVEăICAL TAPERăJUNCTIONăSTRUCTION SIGNčWORKERăTAINS AS MEMBER",
  "ČNORMAL SUBGROUPě OR EQUAL TOĉWITH LONG HORIZONTAL STROKEĎOVERBAR",
  "ĎVERTICAL BAR AT END OF HORIZONTAL STROKEĄINUOUS UNDERLINE SYMBOLĄOUR INTEGRALĄROL KNOBS",
  "ĈSEQUENCE INTRODUCERăVENIENCE STOREĂOKED RICEĄIEąNGĂPTIC CAPITAL LETTER AKHMIMIC KHEIėLFA",
  "ĖBOHAIRIC KHEIĖCROSSED SHEIĘYPTOGRAMMIC EIEĤGANGIAĤNIĤSHEIĖDALDAėEIėIALECT-P ALEFĠHORIĠKAPAĠNI",
  "ĖEIEĖFEIėIĖGAMMAĘNGIAĖHATEėORIĖIAUDAĖKAPAėHEIĘIėSIĖL-SHAPED HAėAULAĖMIĖNIĖOėLD COPTIC AINġDJA",
  "ġESHġGANGIAġHAģTĢEIĢORIġOOUġSHEIģIMAĚNUBIAN NGIĢYIġSHIMAġWAUėOUĖPIėSIĖROĖSAMPIėHEIĘIMAėIMAėOU",
  "ĖTAUėHETHEĖUAĖVIDAĖZATAĈOMBINING NI ABOVEđSPIRITUS ASPERĚLENISćEPACT DIGIT EIGHTēFIVEĔOURēNINE",
  "ēONEēSEVENĔIXēTHREEĔWOčNUMBER EIGHT HUNDREDęYĔFIFTYĖVE HUNDREDĕORTYĖUR HUNDREDĔNINE HUNDREDĘTY",
  "ĔONE HUNDREDĔSEVEN HUNDREDęTYĕIX HUNDREDėTYĔTENĕHIRTYĖREE HUNDREDĕWENTYĖO HUNDRED",
  "čTHOUSANDS MARKćFRACTION ONE HALFĈULL STOPćMORPHOLOGICAL DIVIDER",
  "ćOLD NUBIAN DIRECT QUESTION MARKĒFULL STOPĒINDIRECT QUESTION MARKĒVERSE DIVIDER",
  "ćSMALL LETTER AKHMIMIC KHEIĕLFAĔBOHAIRIC KHEIĔCROSSED SHEIĖYPTOGRAMMIC EIEĢGANGIAĢNIĢSHEI",
  "ĔDALDAĕEIĕIALECT-P ALEFĞHORIĞKAPAĞNIĔEIEĔFEIĕIĔGAMMAĖNGIAĔHATEĕORIĔIAUDAĔKAPAĕHEIĖIĕSI",
  "ĔL-SHAPED HAĕAULAĔMIĔNIĔOĕLD COPTIC AINğDJAğESHğGANGIAğHAġTĠEIĠORIğOOUğSHEIġIMAĘNUBIAN NGIĠYI",
  "ğSHIMAğWAUĕOUĔPIĕSIĔROĔSAMPIĕHEIĖIMAĕIMAĕOUĔTAUĕHETHEĔUAĔVIDAĔZATAĈYMBOL KAIďHI ROĎMI ROĎPI RO",
  "ĎSHIMA SIMAďTAUROSĎTAU ROăYLEFT SYMBOLĄRIGHT SIGNĂRALăNISH VERSE DIVIDERăRESPONDS TO",
  "ĂUCH AND LAMPăNTERBOREćSINKąING ROD TENS DIGIT EIGHTĘFIVEęOURĘNINEĘONEĘSEVENęIXĘTHREEęWO",
  "čUNIT DIGIT EIGHTĘFIVEęOURĘNINEĘONEĘSEVENęIXĘTHREEęWOăPLE WITH HEARTĂWă FACEāRĂABĂEDIT CARD",
  "ăSCENT MOONĂICKETć BAT AND BALLĂOCODILEăISSANTăSS MARKĆOF JERUSALEMĉLORRAINE",
  "ĆPATTY WITH LEFT CROSSBARđRIGHT CROSSBARćOMMEEČ WITH HALF-CIRCLE BELOWąED FLAGS",
  "ĈNEGATIVE SQUARED LATIN CAPITAL LETTER PĈSWORDSąING LANESăWNĂUTCHăZEIRO SIGNĂYING CAT FACE",
  "ćFACEăSTAL BALLāSIāUBE ROOTĂCUMBERĂNEIFORM NUMERIC SIGN EIGHT ASHĝDISHĝGESH2ĝSHAR2ĝU",
  "Ğ VARIANT FORMĝVARIANT FORM USSUĮ3ĘLAMITE FIFTYĠORTYğONE THIRDğTWO THIRDSėFIVE ASHğ TENUĜBAN2",
  "Ġ VARIANT FORMĝURUĜDISHĜGESH2ĠUĜSHAR2ĠUĝIXTHS DISHĜUĝ VARIANT FORMĘOUR ASHğ TENUĜBAN2",
  "Ġ VARIANT FORMĝURUĜDISHĜGESH2ĠUĜSHAR2ĠUĜUĝ VARIANT FORMĜVARIANT FORM LIMMUĮ AįBĮ4ėNIGIDAESH",
  "ĝMINęNE ASHĜDISHĜGESH2ĜSHAR2ĜUĝ VARIANT FORMĜVARIANT FORM ILIMMUį Aį3į4",
  "ėOLD ASSYRIAN ONE QUARTERĨSIXTHĘNE BAN2ĜURUěEIGHTH ASHĜSHE3ěGESH2ğUěHALF GURěQUARTER ASHģGUR",
  "ěSHARUěTHIRD DISHġVARIANT FORM AėSEVEN ASHĝDISHĝGESH2ĝSHAR2ĝUĞ VARIANT FORM",
  "ĝVARIANT FORM IMIN AįBĮ3ĘHAR2 TIMES GAL PLUS DISHĬMINĘIX ASHĞ TENUěDISHěGESH2ěSHAR2ěU",
  "Ĝ VARIANT FORMěVARIANT FORM ASH9ėTHREE ASHĠ TENUĝBAN2ĞURUġ VARIANT FORMĝDISHĝGESH2ġUĝSHAR2",
  "Ģ VARIANT FORMġUĢ VARIANT FORMĝVARIANT FORM ESH16ĭ21ĘWO ASHĞ TENUěBAN2ĜURUěESHE3ěGESH2ğUěSHAR2",
  "ğUěTHIRDS DISHĢVARIANT FORM AĊPUNCTUATION SIGN DIAGONAL COLONĤQUADCOLONĤTRICOLON",
  "ěOLD ASSYRIAN WORD DIVIDERěVERTICAL COLONĊSIGN AĐ TIMES AėBADėGAN2 TENUėHAėIGIėLAGAR GUNUėMUSH",
  "ėSAGĐ2ĐBđ GUNUĒTIMES ASH2ĘDUN3 GUNUĘGALĚN2 TENUĘHAĘIGI GUNUęMINĘLAGABĘNUNě TENUĘSHESHĚU2",
  "ĘU PLUS U PLUS Uđ2Ē TIMES AęBALAGęGAN2 TENUęME PLUS ENęSHA3ęTAK4ĐDđ TIMES ESH2ĐKđ TIMES ERIN2",
  "ĘSHITA PLUS GISHĐLđ TIMES ALĘDIM2ĘGISHĘHAĘKAD3ęIĘSHEĘUSHđANđEPHĐMARē TIMES KUGĚSHEĐNđ OVER AN",
  "ĒPLUS NAGA OPPOSING AN PLUS NAGAĜSQUAREDĒTHREE TIMESđSHEĐPINĐRADē TIMES KURđKABĐSAL2đH",
  "Ē KABA TENUēOVER ASH OVER ASHĤ CROSSING ASH OVER ASH OVER ASH",
  "ĜTUG2 OVER TUG2 TUG2 OVER TUG2 PAPēZIDA TENUĒ2ĒGABďBAđDĒ TIMES DISH TENUđG3đHAR2ĕ TIMES AB2ĜNI",
  "ĜZAđLĒ OVER BALĒAGđRĒA2ĐIđ TIMES AĘGARĘIGI GUNUĐUđ CROSSING BUĒOVER BU ABĚTIMES NA2ĚUNđLUG",
  "Ĕ OVER BULUGđRĒ2ďDAđ TIMES TAK4đGĒ KISIM5 TIMES A PLUS MASHġMARĠBALAGġIĠGAĢ PLUS MASHġIĢR2ġUD",
  "ĠHAĠIRĢ PLUS LUĠKAKĠLAġUĢ PLUS MASH2ĢMĠNEĠPAP PLUS PAPĠSIĠTAK4ĠU2 PLUS GIR2ĨMASHġSHēTIMES KUR",
  "Ē3đMđRĒA3ē4ĐIđBđMĒ TIMES IGIęSHEęU U UĒ2ē TIMES UDđNĒ KASKAL U GUNU DISHđSHē PLUS SHUĐUđ GUNU",
  "ĒOVER DUĒSHESHIGđBĒ TIMES ESH2ęSHEĒ2đGĒ TIMES ANSHEĚSHĜ AT LEFTęDINĚUNęERIN2ęGAĚIěR2 GUNUěSH",
  "ęHAĚIęIGI GUNUęKASKALĚURěSHU2ğ PLUS KASKALęLAK-020ěMĜ TIMES KURĚUH PLUS GISHęMASHĚESĚIęNIęPI",
  "ęSHEĚI GUNUĒUDđHđNĒ3ē GUNUĘ GUNUĒ4đR2ďEĐ OVER E NUN OVER NUNđTIMES PAPĐ2",
  "đ TIMES A PLUS HA PLUS DAĘGARĘKURĘMIĘPAPĘSALęHEĘUĐDINĐGIRĐLĐNđ CROSSING ENĒOPPOSING ENĒSQUARED",
  "ĒTIMES GAN2Ĝ TENUĘMEĐRENđIN2Ĕ XĐSH2ē CROSSING ESH2ĐZENē SHESHIG TIMES ASHĢHIĢIGI GUNUĢLAĤLĢME",
  "ĤSĢSUĔTIMES Aě PLUS LALĤ TIMES LALěNĚBADĚDUN3 GUNUģ GUNUĚGUDĚHAĜ GUNUĚIGI GUNUĚKASKALĠ SQUARED",
  "ěU3ĚLAĜL TIMES LALěIěUĚSHEěUĚU2ěDďGAđ GUNUđ2Ē OVER GA2ēTIMES A PLUS DA PLUS HAĠHAĠIGI",
  "ĚB2 TENU PLUS TABĚNě PLUS KAK PLUS AĚSHĜ2ĝ PLUS GALęBADěHAR2ěR PLUS RAĚURĜ PLUS RAęDAĚIěM GUNU",
  "ĝTIMES SHEĚUBěG TIMES IGI GUNUģKASKALęELě PLUS LAĚNě TIMES GAN2 TENUĚRENęGAěN2 TENUěRĜ PLUS DI",
  "ĢNEĚIě4Ĝ PLUS AěR2 PLUS SUęHA PLUS AġLU PLUS ESH2ěLĜ PLUS LAĚI PLUS LIĚUB2ęIGI GUNU",
  "ĚSH PLUS HU PLUS ASHęKAKěSKALĚIDĜ PLUS LALĚU3 PLUS ANěSHU2 PLUS KASKALęLAěMĜ TIMES KURĚUH",
  "ęME PLUS ENĚIĚUSHęNEě PLUS E2ġGIĚUNĜ OVER NUNęPAęSALěRĚHEĜ PLUS TURěIDĜMĚUMęTAK4ęUĚDě PLUS DU",
  "ęZIZ2đBAē CROSSING GABAĔROTATED NINETY DEGREESđDĒ OVER GAD GAR OVER GARđL",
  "Ē GAD OVER GAD GAR OVER GARĒAMđMđNĒ2ē CROSSING GAN2ĔOVER GAN2ĔTENUđRĒ3đSHANĐE22đSHTIN",
  "Ė TIMES KURĝUĐIđ CROSSING GIĒTIMES EĘUđ4Ē CROSSING GI4ēOVER GI4đDIMđGđR2ē GUNUĒ3",
  "ē TIMES A PLUS IGIĚGAN2 TENUĚIGIĚLU PLUS IGIĚPAđSALĒHē CROSSING GISHĔTENUĕIMES BAD",
  "ĚGISH CROSSING GISHĚTAK4ĐUđ CROSSING GUđ2Ē GUNUēTIMES IGI GUNUęKAKĜ TIMES IGI GUNUęNUN",
  "ęSAL PLUS TUG2đDĒ OVER GUD LUGALēPLUS GISH TIMES TAK4ēTIMES A PLUS KURęKURđLđMĒ TIMES SHEđRĒ7",
  "ĒUNēSHďHAđ GUNUĒTENUĖ GUNUđLĐIđ TIMES ASHě OVER HI TIMES ASHě2ĘBADĘDISHĘGADĘKINĘNUNĘSHEĘUĐUđB2",
  "ē TIMES ANĚHALĚKASKALĚLISHĚUDđL2đSHďIĐ AĐBĐDIMē OVER IDIM BURĞSQUAREDĐGđIĒ DIBēGUNU",
  "ēOVER IGI SHIR OVER SHIR UD OVER UDēRIĐLđ TIMES GAN2 TENUđ2ĐMđ CROSSING IMĒOPPOSING IMĒSQUARED",
  "ĒTIMES TAK4đINĐNĐRĐSHďKAđ TIMES AęDĚ PLUS KU3ęNSHEęSH2ě3ĘBADĚLAGĚRęIęUĘERIN2ęSH2ĘGAĚLĚN2 TENU",
  "ĚRě PLUS SHA3 PLUS AęIĚR2ĚSHĜ CROSSING GISHĝPLUS SARęUĚDĚR7ĘHI TIMES ASH2ĘIGIęMĘKAĚKęIĚDĘLIęU",
  "ĚMĘMEĚ PLUS DUĠGIĠTEęIĚ PLUS NUNUZĘNEęUNĘPAęIĘRUĘSAĚRęHAĚEĚIDĚUěLęIGęUHURĘTARęUĘUę U Uę2ęD",
  "ęMUM TIMES PAęRĚ2ęSHĘZIđ2Ē CROSSING KA2đBđD2Ē3Ē4Ē5ē OVER KAD5đKĒ TIMES IGI GUNUđL",
  "Ē CROSSING KALēTIMES BADđM2Ē4đP ELAMITEđSKALĕ LAGAB TIMES U OVER LAGAB TIMES U",
  "ĖOVER KASKAL LAGAB TIMES U OVER LAGAB TIMES UĐESH2ĐIđ TIMES BADĘUęDđDđNđSALĒHĒIM5ĕ OVER KISIM5",
  "ĐUđ OVER HI TIMES ASH2 KU OVER HI TIMES ASH2đ3đ4Ē VARIANT FORMđ7đLĒ GUNUđNđRĒ OPPOSING KUR",
  "đSHU2ĐWU318ďLAđGABĔ SQUAREDĕTIMES AĜ PLUS DA PLUS HAĢGARĢLALĜLĜNĜSH ZIDA TENUěBADĜIěDARěENěGA",
  "ĝRĜIĜUDĞ PLUS GUDěHAĝLĜI TIMES NUNěIGI GUNUĜMĝ PLUS HAģLUěKIĝNĜU3ĝLĞ PLUS HI PLUS AěLAGABĜISH",
  "ĜUĝLěMEĝ PLUS ENĜUSHěNEěSHE PLUS SUMĝITA PLUS GISH PLUS ERIN2īTENUĝU2ğ PLUS SHU2ĜUMěTAGĝK4",
  "ĜE PLUS A PLUS SU PLUS NAěUĜ PLUS AĢU PLUS UĜ2 PLUS ASHĜDĜSHěZU OVER ZUēRĔ GUNU",
  "ę OVER LAGAR GUNU SHEĕTIMES SHEĞ PLUS SUMđHSHUđK-003Ĕ21ĕ5Ĕ30Ĕ50ĕ1Ĕ62Ĕ79 OVER LAK-079 GUNUĔ80",
  "ĕ1 OVER LAK-081Ĕ92ē130Ĕ42ē210ĕ9Ĕ20ĕ5ĕ8Ĕ38Ĕ65ĕ6ē343ĕ7ĕ8Ĕ83ĕ4Ĕ90ē441ĕ9Ė TIMES GUĝIGI",
  "ĝPAP PLUS LU3ĦPAP PLUS LU3ĝU2 PLUS BAĔ50ĕ7Ĕ70Ĕ83Ĕ90ĕ2ĕ3ĕ5ē550ē608Ĕ17Ė TIMES ASHĝBAD",
  "ĝDUN3 GUNU GUNUĝKU3ĝLAĝTARĞEĝU2ĞDĞRUDAĔ36Ĕ48Ė TIMES DUBĝGAĝIGIĠ GUNUĝNIĝPAP PLUS PAP PLUS LU3",
  "ĝSHESH PLUS KIĝUDĞRUDAē724Ĕ49đLĒ TIMES LALđMĒ TIMES KURĜ PLUS RUĐIđLđMMU2đSHĐUđ TIMES BADđ2",
  "Ē CROSSING LU2ēGUNU TIMES ASHēOPPOSING LU2ēSHESHIGĚ TIMES BADĔQUAREDēTENUĔIMES ALęBADęDISH",
  "ęESH2ĝ PLUS LALĞTENUęGAN2 TENUęHALĚI TIMES BADęIMęKAD2Ĝ3ĝ PLUS ASHĚIęLA PLUS ASHěGAB",
  "ęME PLUS ENęNEĚUęPAPĜ PLUS PAP PLUS LU3ęSHUĚI PLUS ASHěK2 PLUS BUęTAK4ĚUG2đ3đGAL",
  "Ĕ OPPOSING LUGALĖVER LUGALĕSHESHIGđHđLđMĒ OVER LUMě GAR OVER GARďMAđ GUNUĒTIMES TAK4đ2đHđRđSH",
  "ē2ĐEđSĒHĐIđ PLUS ZA7đNĐUđ OVER MUđGĒ GUNUđNSUBđRGU2đSHē CROSSING MUSHĔOVER MUSH",
  "ĝ TIMES A PLUS NAĤGAĤKAKĔTIMES AĚKURĚZAē3Ĕ GUNUĕTIMES AĜ PLUS DIěDIěZAďNAđ2đ4đGAē INVERTED",
  "ĔOPPOSING NAGAĔTIMES SHU TENUēRđMĒ NUTILLUĒ2ĐEđ SHESHIGĒTIMES AĘUDĐIđ TIMES Eđ2đM",
  "Ē TIMES GAN2 TENUěR PLUS GAN2 TENUđNĒ9ĒDA2ĕ TIMES ANĝSHğ PLUS ASHĜBALĜDIM GUNUĜGIĞSHĝUDĞLĜHI",
  "ĜKESH2ĜLAK-050ĜMASHĝE PLUS GAN2 TENUĜNEĝUNĜPAP PLUS PAPĜSHEğ PLUS A ANĦSHĨ PLUS ASHĜUĝ PLUS U",
  "ĝ2 PLUS ASHĝRUDAĝSHđSAGĐUđ11ē OVER NU11 BUR OVER BURĔROTATED NINETY DEGREESĔTENUđN",
  "Ē CROSSING NUNğ LAGAR OVER LAGARēLAGAR TIMES GARğMASHğSALĢ OVER NUN LAGAR TIMES SALğUSH",
  "ēOVER NUNēTENUĒUZĔ AB2 TIMES ASHGABğBIğDUGğGUDğIGI GUNUğKAD3ğLAğNEğSILA3ğU2ĕKISIM5 TIMES BIĤ U",
  "ďPAđDđNđPĐESH2Ĕ ASTERISKĐIđ CROSSING PIĒTIMES AęBĘBIęUĘEĘIęBĘUę2đR2ĒIGĔ OPPOSING PIRIG",
  "ĕTIMES KALěUDěZAďRAđBĐIĐUďSAđGĒ GUNUė TIMES HAēNUTILLUēOVER SAGēTIMES AęDUěBęENęHAęIGI GUNU",
  "ęKAKĚURęLUMęMIęNUNęSALĚHE AT LEFTěIDęTABěK4ęU2ĚBĚMĚRĚSHđLĒ LAGAB TIMES ASH2đNGA2đRĐHAĒ3",
  "ē TIMES AĚBADĚGISHĚNEĚSHU2ĚTURĚUě PLUS AĒ6ē TENUĒB6ĒR2đEĒ HUēOVER SHE",
  "ě GAD OVER GAD GAR OVER GARĜTAB OVER TAB GAR OVER GARēPLUS HUB2ĘNAM2ĘSARĒG9ĒNĒSHĔ2ĔLAMđID",
  "ē TIMES AĚIMĒMē TIMES AĚBALěULUGĚDINĚGARĚIGIĝ GUNUĚKUSHU2ĚLULĚMUGĚSALĒNIGĒR",
  "ē OVER SHIR BUR OVER BURĔTENUĒTAđUĒ OVER INVERTED SHUĒ2ē PLUS DUG TIMES NIęE2 TIMES ANĒBURĐI",
  "đ GUNUĒTIMES TAK4đGĒ4ē OVER SIG4 SHU2đK2đLA3ĐUđ OVER SUđDĒ2đHURđMĒASHđRĒ9ďTAđ ASTERISKĒGUNU",
  "ĒTIMES HIĘMIđBĒ OVER TAB NI OVER NI DISH OVER DISHēSQUAREDđGĒ TIMES BIęGUDęSHEěUęTUG2ęUDđK4",
  "ē PLUS SAGđRĐEđ GUNUĐIđ TENUđ2đLđRĒ OVER TIRě GAD OVER GAD GAR OVER GARēTIMES TAK4ĐUđG2đKđM",
  "Ē TIMES GAN2 TENUęTHREE DISHđRĒ OVER TUR ZA OVER ZAďUĐ GUDđOVER U PA OVER PA GAR OVER GAR",
  "ĘSUR OVER SURĘU REVERSED OVER U REVERSEDđUĒ UĐ2ĐBĐDđ GUNUĒKUSHU2ĒSHESHIGę TIMES BADĒTIMES BAD",
  "ĘMIĘU PLUS U PLUS Uħ GUNUđUGĐMđ TIMES LAGABĘMEĚ PLUS DAĘSHA3ĘUđBINđUMē TIMES KASKALĚPAĐNđ GUNU",
  "ĐRđ CROSSING URĒSHESHIGđ2Ē INVERTEDēTIMES A PLUS HAĠNAĚLęHAęNUNęU2ě PLUS ASHġBIĚDđ4đIĒ3đU",
  "Ē TIMES AĚSHGABęBARęDARA3ĚUNęGAěLěN2 TENUěRĚUęHAęIGIĚMĚSHęKIęLAK-668ĚU3ěMęMINęPAęSHEĚIG4ęTU",
  "ęU PLUS GUDĚDĚRUDAĒDAĔ TIMES UĐSHĒ TIMES AęKUěRęTAK4Ē2ĒUMXĒXĐTUKIĐZ3Ē TIMES KASKALđUďZA",
  "đ SQUARED TIMES KURĒTENUđ7đGđMXĐE2ĐIđ OVER ZIđ3đBĒ KABA TENUđGđZ2ĐUđ OVER ZU PLUS SARđ5",
  "Ē TIMES AęTHREE DISH TENUđBURđMĂP ON BLACK SQUAREĄWITH STRAWăCAKEăIDOĂRLING STONE",
  "ĄY BRACKET EXTENSIONĆLOGICAL ANDĎORĈOPăRENCY EXCHANGEĉSIGNĄY AND RICE",
  "ăVED STEM PARAGRAPH SIGN ORNAMENTĂSTARDĄOMSĂT OF MEATāYCLONEĂLINDRICITYĂPRIOT SYLLABLE AđEđI",
  "đJAĒOđKAĒEĒIĒOĒUđLAĒEĒIĒOĒUđMAĒEĒIĒOĒUđNAĒEĒIĒOĒUđOđPAĒEĒIĒOĒUđRAĒEĒIĒOĒUđSAĒEĒIĒOĒUđTAĒEĒIĒO",
  "ĒUđUđWAĒEĒIĒOđXAĒEđZAĒOĄO-MINOAN SIGN CM001Ė2Ė4Ė5Ė6Ė7Ė8Ė9ĕ10Ė1Ė2ėBĖ3Ė5Ė7Ė9ĕ21Ė3Ė4Ė5Ė6Ė7Ė8Ė9ĕ30",
  "Ė3Ė4Ė5Ė6Ė7Ė8Ė9ĕ40Ė1Ė4Ė6Ė7Ė9ĕ50Ė1Ė2Ė3Ė4Ė5Ė6Ė8Ė9ĕ60Ė1Ė2Ė3Ė4Ė6Ė7Ė8Ė9ĕ70Ė1Ė2Ė3Ė4Ė5ėBĖ6Ė8Ė9ĕ80Ė1Ė2",
  "Ė3Ė4Ė5Ė6Ė7Ė8Ė9ĕ90Ė1Ė2Ė4Ė5Ė6Ė7Ė8Ė9Ĕ100Ė1Ė2Ė3Ė4Ė5Ė7Ė8Ė9ĕ10Ė2Ė4Ĕ301Ė2ĂRILLIC CAPITAL LETTER A",
  "ę WITH BREVEğDIAERESISęBKHASIAN CHEĥ WITH DESCENDERĢDZEĢHAęLEUT KAĘBARRED OĠ WITH DIAERESIS",
  "ĚSHKIR KAęEęIG YUSĚNOCULAR OęLENDED YUSęROAD OMEGAęYELORUSSIAN-UKRAINIAN IĘCCHEęHE",
  "ě WITH DESCENDERĢIAERESISġVERTICAL STROKEęLOSED LITTLE YUSęROSSED OĘDCHEęEęJEěRV",
  "ęOUBLE MONOCULAR OğOęWEęZEěLOĚHEĚWEĚZEěHEĘEę WITH DIAERESISęFęLĚ WITH DESCENDERĠHOOK",
  "ĠMIDDLE HOOKĠTAILęMĚ WITH TAILęNĚ WITH DESCENDERĠHOOKĠLEFT HOOKĠMIDDLE HOOKĠTAILęRĚ WITH TICK",
  "ęSĚ WITH DESCENDERĘFITAĘGHEě WITH DESCENDERġMIDDLE HOOKġSTROKEħ AND HOOKġUPTURNęJEĘHA",
  "Ě WITH DESCENDERĠHOOKĠSTROKEĚRD SIGNęWEĘIę WITH DIAERESISğGRAVEğMACRONęEĚ WITH BREVEĠGRAVEęO",
  "ĚTAěIFIED AġBIG YUSġCLOSED LITTLE YUSġEġLITTLE YUSġYATęZHITSAğ WITH DOUBLE GRAVE ACCENTĘJEĘKA",
  "Ě WITH DESCENDERĠHOOKĠSTROKEĠVERTICAL STROKEęHAKASSIAN CHEęJEęOMI DEĞJEĞZJEĝLJEĝNJEĝSJEĝTJE",
  "ĝZJEĚPPAęSIĘLHAęITTLE YUSęJEĘMONOCULAR OĜGRAPH UKĘNEUTRAL YERęJEĘOę WITH DIAERESISęMEGA",
  "ĝ WITH TITLOęTĘPEĚ WITH DESCENDERĠMIDDLE HOOKęSIĘQAĘREVERSED DZEġTSEġYUġZEęHAęOUND OMEGAĘSCHWA",
  "ĝ WITH DIAERESISęEMISOFT SIGNęHAĚCHAĚHAĜ WITH DESCENDERĚORT Iğ WITH TAILĞUĚWEęOFT DEĝELĞMĝSIGN",
  "ęTRAIGHT UĢ WITH STROKEĘTCHEęEĚ WITH DESCENDERĠMIDDLE HOOKęSEĚHEĚSEĚWEęWEĘUę WITH DIAERESIS",
  "ĠOUBLE ACUTEğMACRONęKĚRAINIAN IEĘVEĘWEĘYAĚEĚTęERUĜ WITH BACK YERĢDIAERESISęIęNęUĘZE",
  "Ě WITH DESCENDERġIAERESISĚMLYAęHEě WITH BREVEġDESCENDERĢIAERESISĚWEĒIGATURE A IEĚEN GHEĚTE TSE",
  "ĉKAVYKAĉLETTER MULTIOCULAR OĐPALOCHKAĐSMALL CAPITAL ELĉPAYEROKĉSMALL LETTER Aė WITH BREVE",
  "ĝDIAERESISėBKHASIAN CHEģ WITH DESCENDERĠDZEĠHAėLEUT KAĖBARRED OĞ WITH DIAERESISĘSHKIR KAėE",
  "ėIG YUSĘNOCULAR OėLENDED YUSėROAD OMEGAėYELORUSSIAN-UKRAINIAN IĖCCHEėHEę WITH DESCENDER",
  "ĠIAERESISğVERTICAL STROKEėLOSED LITTLE YUSėROSSED OĖDCHEėEėJEęRVėOUBLE MONOCULAR OĝOėWEėZEęLO",
  "ĘHEĘWEĘZEęHEĖEė WITH DIAERESISėFėLĘ WITH DESCENDERĞHOOKĞMIDDLE HOOKĞTAILėMĘ WITH TAILėN",
  "Ę WITH DESCENDERĞHOOKĞLEFT HOOKĞMIDDLE HOOKĞTAILėRĘ WITH TICKėSĘ WITH DESCENDERĖFITAĖGHE",
  "ę WITH DESCENDERğMIDDLE HOOKğSTROKEĥ AND HOOKğUPTURNėJEĖHAĘ WITH DESCENDERĞHOOKĞSTROKEĘRD SIGN",
  "ėWEĖIė WITH DIAERESISĝGRAVEĝMACRONėEĘ WITH BREVEĞGRAVEėOĘTAęIFIED AğBIG YUSğCLOSED LITTLE YUS",
  "ğEğLITTLE YUSğYATėZHITSAĝ WITH DOUBLE GRAVE ACCENTĖJEĖKAĘ WITH DESCENDERĞHOOKĞSTROKE",
  "ĞVERTICAL STROKEėHAKASSIAN CHEėJEėOMI DEĜJEĜZJEěLJEěNJEěSJEěTJEěZJEĘPPAėSIĖLHAėITTLE YUSėJE",
  "ėONG-LEGGED DEĖMONOCULAR OĚGRAPH UKĖNARROW OėEUTRAL YERėJEĖOė WITH DIAERESISėMEGAě WITH TITLO",
  "ėTĖPALOCHKAėEĘ WITH DESCENDERĞMIDDLE HOOKėSIĖQAĖREVERSED DZEğTSEğYUğZEėHAėOUND OMEGAěED VE",
  "ĖSCHWAě WITH DIAERESISėEMISOFT SIGNėHAĘCHAĘHAĚ WITH DESCENDERĘORT Iĝ WITH TAILĜUĘWEėOFT DEěEL",
  "ĜMěSIGNėTRAIGHT UĠ WITH STROKEĖTALL HARD SIGNěTEěYATėCHEėEĘ WITH DESCENDERĞMIDDLE HOOK",
  "ėHREE-LEGGED TEėSEĘHEĘSEĘWEėWEĖUė WITH DIAERESISĞOUBLE ACUTEĝMACRONėKĘRAINIAN IEėNBLENDED UK",
  "ĖVEĖWEėIDE ESĖYAĘEĘTėERUĚ WITH BACK YERĠDIAERESISėIėNėUĖZEĘ WITH DESCENDERğIAERESISĘMLYAėHE",
  "ę WITH BREVEğDESCENDERĠIAERESISĘWEĐIGATURE A IEĘEN GHEĘTE TSEĉTHOUSANDS SIGNĀDAGGERĆ KNIFE",
  "ćWITH LEFT GUARDČRIGHT GUARDĂLET SYMBOLĂNCERăGOĂRK SHADEĆUNGLASSESĂSH SYMBOLąWITH LEFT UPTURN",
  "ĄED LOW LINEćOVERLINEćTRIANGLE-HEADED RIGHTWARDS ARROWĂTA LINK ESCAPEāC1Ă2Ă3Ă4ĂSāEAF PERSON",
  "ĂCIDUOUS TREEĄMAL EXPONENT SYMBOLĈSEPARATOR KEY SYMBOLăREASE FONT SIZE SYMBOLĂERĂGREE CELSIUS",
  "ćFAHRENHEITćSIGNĂLăETEăIVERY TRUCKăTA EQUAL TOĂNTISTRY SYMBOL LIGHT DOWN AND HORIZONTAL",
  "Ī WITH CIRCLEİTRIANGLEİWAVEėUP AND HORIZONTALĨ WITH CIRCLEĮTRIANGLEĮWAVE",
  "ėVERTICAL AND BOTTOM LEFTīRIGHTĤTOP LEFTĨRIGHTĤWAVEĠWITH CIRCLEĥTRIANGLEĂPARTMENT STORE",
  "ĂRELICT HOUSE BUILDINGĂSCENDING NODEăERET CAPITAL LETTER AYėBEEėCHEEėDEEėEFĘLĘMĘNęGĘRĘSęHĘTHĘW",
  "ėGAYėHėJEEėKAYėLONG AĝHĜEĜIĜOĝOėOIĘWėPEEėSHORT AĞHĝEĝIĝOĞOėTEEĘHEEėVEEėWUėYEEėZEEĘHEE",
  "ĈSMALL LETTER AYĕBEEĕCHEEĕDEEĕEFĖLĖMĖNėGĖRĖSėHĖTHĖWĕGAYĕHĕJEEĕKAYĕLONG AěHĚEĚIĚOěOĕOIĖWĕPEE",
  "ĕSHORT AĜHěEěIěOĜOĕTEEĖHEEĕVEEĕWUĕYEEĕZEEĖHEEąTĆ ISLANDăKTOP COMPUTERĈWINDOW",
  "ĂVANAGARI ABBREVIATION SIGNČCUTE ACCENTċCARETċDANDAČIGIT EIGHTđFIVEĒOURđNINEđONEđSEVENĒIX",
  "đTHREEĒWOđZEROČOUBLE DANDAċGAP FILLERČRAVE ACCENTċHEADSTROKEċJAIN OMċLETTER AēAēIēUēWēYĒBAēBA",
  "ēHAĒCAĔNDRA AęEęOēHAĒDAēDAĔDAĕHAĔHAēHAĒEĒFAĒGAēGAēHAĔHAēLOTTAL STOPĒHAēEAVY YAĒIēIĒJAēHAēJAĒKA",
  "ēHAĔHAĒLAēLAĔLAĒMAĔRWARI DDAĒNAēGAēNAĔNAēYAĒOēEēOEĒPAēHAĒQAĒRAēHAēRAĒSAēHAĔORT AĘEĘOēSAĒTAēHA",
  "ēTAĔHAĒUēEēUĔEĒVAēOCALIC LěLĚRěRĒYAēYAĒZAēHAċOMċSIGN ANUSVARAđVAGRAHAĐCANDRABINDUě AVAGRAHA",
  "ĜTHREEĝWOĜVIRAMAĐDOUBLE CANDRABINDU VIRAMAĐHIGH SPACING DOTĐINVERTED CANDRABINDUĐNUKTA",
  "ĐPUSHPIKAĐSIDDHAMđPACING CANDRABINDUĐVIRAMAĒSARGAČTRESS SIGN ANUDATTAėUDATTAċVOWEL SIGN AAėIėU",
  "ėWėYĖCANDRA EĝLONG EĝOĖEĖIėIĖOėEėOEĖPRISHTHAMATRA EĖSHORT EĜOĖUėEėUĘEĖVOCALIC LğLĞRğR",
  "ăICE CONTROL FOURďONEďSTRINGďTHREEĐWOāIAERESISăMETER SIGNĄOND OPERATORĈSHAPE WITH A DOT INSIDE",
  "ĈTARGETĈWITH BOTTOM HALF BLACKčLEFT HALF BLACKčRIGHT HALF BLACKčTOP HALF BLACKĂE FACE-1ĉ2ĉ3ĉ4",
  "ĉ5ĉ6ăSEL LOCOMOTIVEĂFFERENCE BETWEENĂGIT EIGHTċ COMMAČFULL STOPĆFIVEĊ COMMAċFULL STOPćOUR",
  "Ċ COMMAċFULL STOPĆNINEĊ COMMAċFULL STOPĆONEĉ COMMAĊFULL STOPĆSEVENċ COMMAČFULL STOPćIXĉ COMMA",
  "ĊFULL STOPĆTHREEċ COMMAČFULL STOPćWOĉ COMMAĊFULL STOPĆZEROĊ COMMAċFULL STOPăRAM FOR EARTH",
  "ĐLY HEAVENĔUMANċGREATER YANGĔINċHEAVENLY EARTHČUMAN EARTHċLESSER YANGēINĂMENSION ORIGIN",
  "ĂNGBAT CIRCLED SANS-SERIF DIGIT EIGHTġFIVEĢOURġNINEġONEġSEVENĢIXġTHREEĢWOġZEROěNUMBER TEN",
  "ĈNEGATIVE CIRCLED DIGIT EIGHTğFIVEĠOURğNINEğONEğSEVENĠIXğTHREEĠWOęNUMBER TEN",
  "ęSANS-SERIF DIGIT EIGHTĪFIVEīOURĪNINEĪONEĪSEVENīIXĪTHREEīWOĪZEROĤNUMBER TEN",
  "ĂRECT CURRENT SYMBOL FORM TWOćHITĂSABLED CARĄPPOINTED BUT RELIEVED FACEčFACE",
  "ăCONTINUOUS UNDERLINE SYMBOLăGUISED FACEĂTTO MARKĂVES AKURU DIGIT EIGHTĒFIVEēOURĒNINEĒONE",
  "ĒSEVENēIXĒTHREEēWOĒZEROčOUBLE DANDAČEND OF TEXT MARKČGAP FILLERČINITIAL RAČLETTER AĔAēBAĔHAēCA",
  "ĔHAēDAĔDAĕHAĔHAēEēGAĔHAēHAēIĔIēJAēKAĔHAēLAĔLAēMAēNAĔGAĔNAĔYAēOēPAĔHAēRAēSAĔHAĔSAēTAĔHAĔTAēUĔU",
  "ēVAēYAĔYAēZAČMEDIAL RAēYAČPREFIXED NASAL SIGNČSIGN ANUSVARAđCANDRABINDUđHALANTAđNUKTAČVIRAMA",
  "čOWEL SIGN AAĘIėEėIĘIėOėUĘUăIDESĄNG MASKĄSION SIGNĊLASHĉTIMESăORCE SYMBOLĂYA LAMPĂZZY FACE",
  "ĆSYMBOLāLEāNA DOUBLE HELIXāO NOT LITTER SYMBOLĂCUMENTĈ WITH PICTUREĎTEXTĒ AND PICTUREĂDO",
  "ĂES NOT CONTAIN AS MEMBERĔNORMAL SUBGROUPģ OR EQUALĉDIVIDEď WITH REVERSED NEGATION SLASHĉFORCE",
  "ĉPRECEDEĐ OR EQUALċOVEĉSUCCEEDĐ OR EQUALĂGă FACEăRA ABBREVIATION SIGNĆLETTER AĎAĎIĎUčBAĎHAčCA",
  "ĎHAčDAĎDAďHAĎHAčEčGAĎHAčHAčIĎIčJAĎHAčKAĎHAčLAčMAčNAĎGAĎNAĎYAčOčPAĎHAčRAĎRAčSAĎHAĎSAčTAĎHAĎTA",
  "ďHAčUĎUčVAčYAĆSIGN ANUSVARAċNUKTAċVIRAMAčSARGAĆVOWEL SIGN AAĒIĒUđEđIĒIđOđUĒUđVOCALIC RĚR",
  "ĂLLAR SIGNăPHINĂMINO TILE HORIZONTAL BACKĖ-00-00ě1ě2ě3ě4ě5ě6Ę1-00ě1ě2ě3ě4ě5ě6Ę2-00ě1ě2ě3ě4ě5ě6",
  "Ę3-00ě1ě2ě3ě4ě5ě6Ę4-00ě1ě2ě3ě4ě5ě6Ę5-00ě1ě2ě3ě4ě5ě6Ę6-00ě1ě2ě3ě4ě5ě6ČVERTICAL BACKĔ-00-00ę1ę2",
  "ę3ę4ę5ę6Ė1-00ę1ę2ę3ę4ę5ę6Ė2-00ę1ę2ę3ę4ę5ę6Ė3-00ę1ę2ę3ę4ę5ę6Ė4-00ę1ę2ę3ę4ę5ę6Ė5-00ę1ę2ę3ę4ę5ę6",
  "Ė6-00ę1ę2ę3ę4ę5ę6ĂNG SIGNĂORĂT ABOVEĄMINUSĄOPERATORĄPLUSăTED CIRCLEĈROSSćFENCEćLINE FACE",
  "ćOBELOSćRIGHT-POINTING ANGLEćSOLIDUSĈQUAREćTRANSPOSITION MARKERĂUBLE ACUTE ACCENT",
  "ćCIRCLED DIGIT EIGHTĕFIVEĖOURĕNINEĕONEĕSEVENĖIXĕTHREEĖWOďNUMBER TENĈOLON EQUALĈURLY LOOP",
  "ćDAGGERĈOWN TACKćEXCLAMATION MARKćHIGH-REVERSED-9 QUOTATION MARKĈYPHENćINTEGRALċRSECTION",
  "ćLEFT ARC GREATER-THAN BRACKETĈOGICAL ANDďORĉW LINEĊ-9 QUOTATION MARK",
  "ċREVERSED-9 QUOTATION MARKćNESTED GREATER-THANĎLESS-THANė WITH UNDERBARćOBLIQUE HYPHENćPLUS",
  "ĈRECEDESĉIMEČ QUOTATION MARKćQUESTION MARKćRIGHT ARC LESS-THAN BRACKETćSOLIDUS OPERATOR",
  "ĈQUARE INTERSECTIONĎUNIONĈTACKED COMMAĉROKE NOT SIGNĈUBSETĉCCEEDSĉPERSETĉSPENSION MARKćUNION",
  "ĈP TACKćVERTICAL BARē DOUBLE LEFT TURNSTILEěRIGHT TURNSTILEĔLEFT TURNSTILEĐLINEćWAVY OVERLINE",
  "Ć-ENDED MULTIMAPćLINE EQUAL TO OR GREATER-THANĘLESS-THANČSLANTED EQUAL TO OR GREATER-THAN",
  "ĠLESS-THANĔGREATER-THAN OR EQUAL TOĔLESS-THAN OR EQUAL TOćSTRUCK CAPITAL CĖGAMMAĖHĖNĖPėIĖQĖRĖZ",
  "ĎITALIC CAPITAL DĕSMALL DěEěIěJĎN-ARY SUMMATIONĎSMALL GAMMAĔPIĆD FEMALE SIGNĈMALE SIGNĈSYMBOL",
  "ăGHNUTĂVE OF PEACEĂWN ARROWHEADąFISH TAILąRIGHT DIAGONAL ELLIPSISąTACKĉ WITH CIRCLE BELOW",
  "Ą-POINTING RED TRIANGLEĎSMALL RED TRIANGLEĎTRIANGLE WITH LEFT HALF BLACKĜRIGHT HALF BLACK",
  "ĄWARD FACING HOOKĔ WITH DOTĐNOTCHED HOOKĜ WITH DOTĈS ANCORAċRROWď AND RIGHT ONE EIGHTH BLOCK",
  "ĐFROM BARĐLEFTWARDS OF UPWARDS ARROWĐTO BARĐWITH CORNER LEFTWARDSĕDOUBLE STROKE",
  "ĕEQUILATERAL ARROWHEADĕHORIZONTAL STROKEĕLARGE TRIANGLE ARROWHEADĕMEDIUM TRIANGLE ARROWHEAD",
  "ĕNOTCHED TAILĕSMALL EQUILATERAL ARROWHEADěTRIANGLE ARROWHEADĕTIP LEFTWARDSęRIGHTWARDS",
  "ĊBLACK ARROWĐCIRCLED WHITE ARROWĊCOMPRESSED ARROWĊDASHED ARROWċOUBLE ARROWĊFINGER-POST ARROW",
  "ĊHARPOON WITH BARB LEFT BESIDE DOWNWARDS HARPOON WITH BARB RIGHT",
  "ĨUPWARDS HARPOON WITH BARB RIGHTġFROM BARġTO BARĠWARDSĜRIGHT FROM BARĢTO BARġWARDSċEAVY ARROW",
  "ĐCOMPRESSED ARROWĊPAIRED ARROWSĊQUADRUPLE ARROWĊROCKETĊSANS-SERIF ARROWċQUARED ARROW",
  "ĊTRIANGLE ARROWHEADĒ-HEADED ARROWğ LEFTWARDS OF UPWARDS TRIANGLE-HEADED ARROWĠTO BAR",
  "ĠWITH BOLD SHAFTĥDOUBLE HORIZONTAL STROKEĥHEAVY SHAFTĥLONG TIP LEFTWARDSĮRIGHTWARDS",
  "ĥMEDIUM SHAFTĥNARROW SHAFTĥVERY HEAVY SHAFTĚDASHED ARROWĚPAIRED ARROWSĚZIGZAG ARROWčPLE ARROW",
  "ċWO HEADED ARROWč-HEADED ARROW WITH TRIANGLE ARROWHEADSĊWHITE ARROWĕ WITHIN TRIANGLE ARROWHEAD",
  "ĊZIGZAG ARROWāRACHMA SIGNăFTING POINT RIGHTWARDS ARROWăGONĆ FACEĂESSĂIVE SLOW SIGN",
  "ĂOMEDARY CAMELăOLING FACEăP OF BLOODĄLETĂUM WITH DRUMSTICKSāUCKĂMPLING",
  "ĂPLOYAN AFFIX ATTACHED E HOOKĘI HOOKĘLEFT-TO-RIGHT SECANTĘSECANTĘTAILĚNGENTğ HOOKďHIGH ACUTE",
  "ĔCIRCLEĔDOTĔGRAVEĔLINEĕONG GRAVEĔTIGHT ACUTEĔVERTICALĜ SECANTĔWAVEďLEFT HORIZONTAL SECANT",
  "ĐOW ACUTEĔRROWēCIRCLEēDOTēGRAVEēLINEĔONG GRAVEēTIGHT ACUTEēVERTICALě SECANTēWAVE",
  "ďMID HORIZONTAL SECANTēVERTICAL SECANTďRIGHT HORIZONTAL SECANTĉDOUBLE MARKĉLETTER AđOUĐBĐDđ S",
  "đHĐEđEđUĐFđ NĐGđ R SĐHđLĐIđEĐJđ Mē SĒNē SĒSē WITH DOTĒWITH DOTĚS INSIDE AND ABOVEĐKđ MĒR SđKĐL",
  "đHđONG IĕUĐMđ Nē SĒSĒWITH DOTĐNđ Mē SĒSĒWITH DOTđASAL AĖIĖOĖUĐOđAđOHđUđWĐPđ NđERNIN AMĘNĐRđ S",
  "đHđOMANIAN IęUĐSđ Jē SĒKē RĒMĒNĒPē RĒSĒTē RĒWITH DOTĚ BELOWđHORT IđLOAN ANĖDHĖEEėHėNĖJĖONėWĖU",
  "ĐTđ R SĒSđHĐUđ NđHđIĐVđOCALIC MĐWđ RđAđEIđHđIđOĒWĐXđWĐYEĉPUNCTUATION CHINOOK FULL STOP",
  "ĉSIGN O WITH CROSSĉTHICK LETTER SELECTORāVDĀE-MAIL SYMBOLāAGLEĂRă OF MAIZEćRICE",
  "ĄWITH HEARING AIDăTHą GLOBE AMERICASčSIA-AUSTRALIAČEUROPE-AFRICAćROUNDĂST SYRIAC CROSS",
  "āDITORIAL CORONISāGGĂYPTIAN HIEROGLYPH A001ė2ė3ė4ė5ĘAė6ĘAĘBė7ė8ė9Ė10ė1ė2ė3ė4ĘAė5ė6ė7ĘAė8ė9Ė20",
  "ė1ė2ė3ė4ė5ė6ė7ė8ė9Ė30ė1ė2ĘAė3ė4ė5ė6ė7ė8ė9Ė40ĘAė1ė2ĘAė3ĘAė4ė5ĘAė6ė7ė8ė9Ė50ė1ė2ė3ė4ė5ė6ė7ė8ė9Ė60",
  "ė1ė2ė3ė4ė5ė6ė7ė8ė9Ė70ĕA001Ę2Ę3Ę4Ę5Ę6Ę7ęAęBĘ8Ę9ė10Ę1Ę2Ę3Ę4Ę5Ę6Ę7Ę8Ę9ė20Ę1Ę2Ę3Ę4Ę5Ę6Ę7Ę8Ę9ė30Ę1",
  "Ę2ĔB001ė2ė3ė4ė5ĘAė6ė7ė8ė9ĕEGIN SEGMENTĔC001ė2ĘAĘBĘCė3ė4ė5ė6ė7ė8ė9Ė10ĘAė1ė2ė3ė4ė5ė6ė7ė8ė9Ė20ė1",
  "ė2ė3ė4ĔD001ė2ė3ė4ė5ė6ė7ė8ĘAė9Ė10ė1ė2ė3ė4ė5ė6ė7ė8ė9Ė20ė1ė2ė3ė4ė5ė6ė7ĘAė8ė9Ė30ė1ĘAė2ė3ė4ĘAė5ė6ė7",
  "ė8ė9Ė40ė1ė2ė3ė4ė5ė6ĘAė7ė8ĘAė9Ė50ĘAĘBĘCĘDĘEĘFĘGĘHĘIė1ė2ĘAė3ė4ĘAė5ė6ė7ė8ė9Ė60ė1ė2ė3ė4ė5ė6ė7ĘAĘB",
  "ĘCĘDĘEĘFĘGĘHĔE001ė2ė3ė4ė5ė6ė7ė8ĘAė9ĘAĖ10ė1ė2ė3ė4ė5ė6ĘAė7ĘAė8ė9Ė20ĘAė1ė2ė3ė4ė5ė6ė7ė8ĘAė9Ė30ė1ė2",
  "ė3ė4ĘAė6ė7ė8ĕND SEGMENTĔF001ĘAė2ė3ė4ė5ė6ė7ė8ė9Ė10ė1ė2ė3ĘAė4ė5ė6ė7ė8ė9Ė20ė1ĘAė2ė3ė4ė5ė6ė7ė8ė9",
  "Ė30ė1ĘAė2ė3ė4ė5ė6ė7ĘAė8ĘAė9Ė40ė1ė2ė3ė4ė5ĘAė6ĘAė7ĘAė8ė9Ė50ė1ĘAĘBĘCė2ė3ĔG001ė2ė3ė4ė5ė6ĘAė7ĘAĘBė8",
  "ė9Ė10ė1ĘAė2ė3ė4ė5ė6ė7ė8ė9Ė20ĘAė1ė2ė3ė4ė5ė6ĘAė7ė8ė9Ė30ė1ė2ė3ė4ė5ė6ĘAė7ĘAė8ė9Ė40ė1ė2ė3ĘAė4ė5ĘAė6",
  "ė7ė8ė9Ė50ė1ė2ė3ė4ĔH001ė2ė3ė4ė5ė6ĘAė7ė8ĕORIZONTAL JOINERĔI001ė2ė3ė4ė5ĘAė6ė7ė8ė9ĘAĖ10ĘAė1ĘAė2ė3",
  "ė4ė5ĕNSERT AT BOTTOM ENDĥSTARTĞTOP ENDĢSTARTĔK001ė2ė3ė4ė5ė6ė7ė8ĔL001ė2ĘAė3ė4ė5ė6ĘAė7ė8ĔM001ĘA",
  "ĘBė2ė3ĘAė4ė5ė6ė7ė8ė9Ė10ĘAė1ė2ĘAĘBĘCĘDĘEĘFĘGĘHė3ė4ė5ĘAė6ĘAė7ĘAė8ė9Ė20ė1ė2ĘAė3ė4ĘAė5ė6ė7ė8ĘAė9",
  "Ė30ė1ĘAė2ė3ĘAĘBė4ė5ė6ė7ė8ė9Ė40ĘAė1ė2ė3ė4ĔN001ė2ė3ė4ė5ė6ė7ė8ė9Ė10ė1ė2ė3ė4ė5ė6ė7ė8ĘAĘBė9Ė20ė1ė2",
  "ė3ė4ė5ĘAė6ė7ė8ė9Ė30ė1ė2ė3ĘAė4ĘAė5ĘAė6ė7ĘAė8ė9Ė40ė1ė2ĕL001Ę2Ę3Ę4Ę5ęAĘ6Ę7Ę8Ę9ė10Ę1Ę2Ę3Ę4Ę5Ę6Ę7ęA",
  "Ę8Ę9ė20ĕU001Ę2Ę3Ę4Ę5Ę6Ę7Ę8Ę9ė10ęAĘ1ęAĘ2Ę3Ę4Ę5Ę6Ę7Ę8ęAĘ9ė20Ę1Ę2ęAĔO001ĘAė2ė3ė4ė5ĘAė6ĘAĘBĘCĘDĘE",
  "ĘFė7ė8ė9Ė10ĘAĘBĘCė1ė2ė3ė4ė5ė6ė7ė8ė9ĘAĖ20ĘAė1ė2ė3ė4ĘAė5ĘAė6ė7ė8ė9ĘAĖ30ĘAė1ė2ė3ĘAė4ė5ė6ĘAĘBĘCĘD",
  "ė7ė8ė9Ė40ė1ė2ė3ė4ė5ė6ė7ė8ė9Ė50ĘAĘBė1ĕVERLAY MIDDLEĔP001ĘAė2ė3ĘAė4ė5ė6ė7ė8ė9Ė10ė1ĔQ001ė2ė3ė4ė5",
  "ė6ė7ĔR001ė2ĘAė3ĘAĘBė4ė5ė6ė7ė8ė9Ė10ĘAė1ė2ė3ė4ė5ė6ĘAė7ė8ė9Ė20ė1ė2ė3ė4ė5ė6ė7ė8ė9ĔS001ė2ĘAė3ė4ė5ė6",
  "ĘAė7ė8ė9Ė10ė1ė2ė3ė4ĘAĘBė5ė6ė7ĘAė8ė9Ė20ė1ė2ė3ė4ė5ė6ĘAĘBė7ė8ė9Ė30ė1ė2ė3ė4ė5ĘAė6ė7ė8ė9Ė40ė1ė2ė3ė4",
  "ė5ė6ĔT001ė2ė3ĘAė4ė5ė6ė7ĘAė8ĘAė9ĘAĖ10ė1ĘAė2ė3ė4ė5ė6ĘAė7ė8ė9Ė20ė1ė2ė3ė4ė5ė6ė7ė8ė9Ė30ė1ė2ĘAė3ĘAė4",
  "ė5ė6ĔU001ė2ė3ė4ė5ė6ĘAĘBė7ė8ė9Ė10ė1ė2ė3ė4ė5ė6ė7ė8ė9Ė20ė1ė2ė3ĘAė4ė5ė6ė7ė8ė9ĘAĖ30ė1ė2ĘAė3ė4ė5ė6ė7",
  "ė8ė9Ė40ė1ė2ĔV001ĘAĘBĘCĘDĘEĘFĘGĘHĘIė2ĘAė3ė4ė5ė6ė7ĘAĘBė8ė9Ė10ė1ĘAĘBĘCė2ĘAĘBė3ė4ė5ė6ė7ė8ė9Ė20ĘAĘB",
  "ĘCĘDĘEĘFĘGĘHĘIĘJĘKĘLė1ė2ė3ĘAė4ė5ė6ė7ė8ĘAė9ĘAĖ30ĘAė1ĘAė2ė3ĘAė4ė5ė6ė7ĘAė8ė9Ė40ĘAĕERTICAL JOINER",
  "ĔW001ė2ė3ĘAė4ė5ė6ė7ė8ė9ĘAĖ10ĘAė1ė2ė3ė4ĘAė5ė6ė7ĘAė8ĘAė9Ė20ė1ė2ė3ė4ĘAė5ĔX001ė2ė3ė4ĘAĘBė5ė6ĘAė7ė8",
  "ĘAĔY001ĘAė2ė3ė4ė5ė6ė7ė8ĔZ001ė2ĘAĘBĘCĘDė3ĘAĘBė4ĘAė5ĘAė6ė7ė8ė9Ė10ė1ė2ė3ė4ė5ĘAĘBĘCĘDĘEĘFĘGĘHĘIė6",
  "ĘAĘBĘCĘDĘEĘFĘGĘHāIGHT PETALLED OUTLINED BLACK FLORETTEćOINTED BLACK STARĎPINWHEEL STAR",
  "ĎRECTILINEAR BLACK STARĆSPOKED ASTERISKĆTEARDROP-SPOKED PROPELLER ASTERISKąH NOTEāJECT SYMBOL",
  "āLBASAN LETTER AďBEďCEĐHEďDEĐHEďEĐIďFEďGEĐHAMMAđEĐJEďHEďIďJEďKEĐHEďLEĐLEďMEďNAĐDEĐEĐJEďOďPEďQE",
  "ďREĐREďSEĐHEďTEĐHEďUďVEďXEďYďZEĐHEĂECTRIC ARROWĉLIGHT BULBĉPLUGĉTORCHĈAL INTERSECTIONăMENT OF",
  "Ċ OPENING DOWNWARDSēUPWARDSċWITH DOT ABOVEĐLONG HORIZONTAL STROKEĐOVERBAR",
  "ĐTWO HORIZONTAL STROKESĐUNDERBARĐVERTICAL BAR AT END OF HORIZONTAL STROKEăPHANTăVATORĂF",
  "ĂYMAIC LETTER ALEPHĐYINďBETHďDALETHďGIMELďHEđTHďKAPHďLAMEDHďMEMďNUNďPEďQOPHďRESHďSADHEđMEKH",
  "ĐHINďTAWĐETHďWAWďYODHďZAYINĉIGATURE ZAYIN-YODHāM DASHăQUADăSPACEĂOJI COMPONENT BALDĐCURLY HAIR",
  "ĐRED HAIRĐWHITE HAIRĆMODIFIER FITZPATRICK TYPE-1-2Ġ3Ġ4Ġ5Ġ6ĂPHASIS SYMBOLăTY DOCUMENTĆNESTćOTE",
  "Ċ PADčGEĆPAGEĊSĆSETĉ WITH LEFT ARROW ABOVEďOVERBARďRIGHT ARROW ABOVEďSMALL CIRCLE ABOVEāN DASH",
  "ăQUADăSPACEĂD OF GUARDED AREAćLINEćMEDIUMćPROOFĊTECTED AREAćSELECTED AREAćTEXTĈRANSMISSION",
  "ē BLOCKĄWITH LEFTWARDS ARROW ABOVEĂQăUIRYĂTER SYMBOLĂVELOPEĈ WITH DOWNWARDS ARROW ABOVE",
  "ĎLIGHTNINGāOLĂMĂTāPAāQUAL AND PARALLEL TOĆTO BY DEFINITIONĉOR GREATER-THANČLESS-THANČPRECEDES",
  "ČSUCCEEDSąS COLONćSIGNċ ABOVE LEFTWARDS ARROWĒPLUS SIGNĒRIGHTWARDS ARROWĒTILDE OPERATOR",
  "čND SLANTED PARALLELĠ WITH TILDE ABOVEČWITH BUMPY ABOVEđDOT BELOWđINFINITY BELOW",
  "đTWO DOTS ABOVE AND TWO DOTS BELOWćWITH ASTERISKăIANGULAR TOĄVALENT TOċWITH FOUR DOTS ABOVE",
  "āRASE TO THE LEFTčRIGHTĂIS FORM ONEĊTWOĂROR-BARRED BLACK CIRCLEēDIAMONDēSQUAREčWHITE CIRCLE",
  "ēDIAMONDēSQUAREāSAĂCăAPEĂTIMATED SYMBOLĈSāTBĂHIOPIC COLON",
  "ċMBINING GEMINATION AND VOWEL LENGTH MARKĞMARKēVOWEL LENGTH MARKČMAĉDIGIT EIGHTďFIVEĐOURďNINE",
  "ďONEďSEVENĐIXďTHREEĐWOĉFULL STOPĉNUMBER EIGHTYĐFIFTYđORTYĐHUNDREDĐNINETYĐSEVENTYđIXTYĐTEN",
  "ē THOUSANDđHIRTYđWENTYĉPARAGRAPH SEPARATORĊREFACE COLONĉQUESTION MARKĉSECTION MARKċMICOLON",
  "ĊYLLABLE BAĔAēBAĕAĔEĕEĔIĔOĔUēEĔEēIēOĔAēUēWAĔEĕEĔIĒCAĔAēCAĕAĔEĕEĔHAĖAĕEĖEĕHAėAĖEėEĖIĖOĖUĕIĕOĕU",
  "ĔIĔOĔUēEĔEēHAĕAĔEĕEĔIĔOĕAĔUĔWAēIēOĔAēUēWAĒDAĔAēDAĕAĔEĕEĔHAAĕEĖEĕIĕOĕUĔIĔOĕAĔUĔWAēEĔEēIēOĔAēU",
  "ēWAēZAAĔEĕEĔIĔOĔUĒFAĔAēEĔEēIēOēUēWAĔEĕEĔIēYAĒGAĔAēEĔEēGAĕAĔEĕEĔIĔOĔUĔWAĖAĕEĖEĕIēIēLOTTAL AěAĚE",
  "ěEĚIĚOěAĚUĚWAēOĔAēUĔRAGE BWEEěIęFWEEěIęGWEĜEěIęHHWAęKWEĜEěIęMWEEěIęPWEEěIęQWEĜEěIēWAĕAĔEĕEĔI",
  "ēYAĕAĔEĕEĔIĔOĔUĒHAĔAēEĔEēHAĕAĔEĕEĔIĔOĔUĔWAĕEĖEĕIĔYAĖAĕEĖEĕIĕOĕUēIēOĔAēUĒJAĔAēEĔEēIēOĔAēUēWAĒKA",
  "ĔAēEĔEēIēOĔAēUēWAĕAĔEĕEĔIēXAĕAĔEĕEĔIĔOĔUĔWAĖAĕEĖEĕIēYAĕAĔEĕEĔIĔOĔUĒLAĔAēEĔEēIēOĔAēUēWAĒMAĔAēE",
  "ĔEēIēOĔAēUēWAĔEĕEĔIēYAĒNAĔAēEĔEēIēOĔAēUēWAēYAĕAĔEĕEĔIĔOĕAĔUĔWAĒPAĔAēEĔEēHAĕAĕRYNGEAL AĞAĝEĞEĝI",
  "ĝOĝUĔEĕEĔIĔOĕAĔUĔWAēIēOĔAēUēWAĔEĕEĔIĒQAĔAēEĔEēHAĕAĔEĕEĔIĔOĔUĔWAĖAĕEĖEĕIēIēOĔAēUēWAĕAĔEĕEĔIēYA",
  "ĕAĔEĕEĔIĔOĔUĒRAĔAēEĔEēIēOĔAēUēWAēYAĒSAĔAēEĔBATBEIT BWAĜFWAĜMWAĜPWAĔEēHAĕAĔEĕEĔIĔOĕAĔUĔWAēIēOĔA",
  "ēSAĕAĔEĕEĔIĔOĔUēUēWAēZAĕAĔEĕEĔIĔOĔUĔWAĒTAĔAēEĔEēHAĕAĔEĕEĔIĔOĕAĔUĔWAēIēOĔAēSAĕAĔEĕEĔIĔOĔUĔWA",
  "ēTHAAĕEĖEĕIĕOĕUēUēWAēZAĕAĔEĕEĔIĔOĕAĔUĒVAĔAēEĔEēIēOēUēWAĒWAĔAēEĔEēIēOĔAēUĒXAĔAēEĔEēIēOĔAēUēWAĕA",
  "ĔEĕEĔIēYAĕAĔEĕEĔIĔOĔUĒYAĔAēEĔEēIēOĔAēUĒZAĔAēEĔEēHAĕAĔEĕEĔIĔOĔUĔWAēIēOĔAēUēWAēZAĕAĔEĕEĔIĔOĔU",
  "ĉTONAL MARK CHIRETĔDERETę-HIDETĕIFATĔHIDETĔKENATĕURTĔRIKRIKĔSHORT RIKRIKĔYIZETĉWORDSPACEĂX",
  "āULER CONSTANTĂRO SIGNĄ-CURRENCY SIGNĄPEAN CASTLEĉPOST OFFICEāVERGREEN TREEāXCESS",
  "ăLAMATION MARKČQUESTION MARKĂPRESSIONLESS FACEĂTENDED ARABIC-INDIC DIGIT EIGHTĜFIVEĝOURĜNINE",
  "ĜONEĜSEVENĝIXĜTHREEĝWOĜZEROăRATERRESTRIAL ALIENĄEMELY HEAVY FIVE SPOKED ASTERISKĐGREEK CROSS",
  "ĐSALTIREđIX SPOKED ASTERISKĐWHITE CIRCLEĖSQUAREāYEăGLASSESăSĀFACE HOLDING BACK TEARSąMASSAGE",
  "ąPALMąSAVOURING DELICIOUS FOODĆCREAMING IN FEARąTHROWING A KISSąWITH COLD SWEATČWBOY HAT",
  "ĊDIAGONAL MOUTHĊFINGER COVERING CLOSED LIPSĊHEAD-BANDAGEĊLOOK OF TRIUMPHĊMEDICAL MASKċONOCLE",
  "ĊNO GOOD GESTUREĊOK GESTUREċNE EYEBROW RAISEDċPEN EYES AND HAND OVER MOUTHďMOUTH",
  "Ĕ AND COLD SWEATĕVOMITINGĊPARTY HORN AND PARTY HATċEEKING EYEċLEADING EYESĊROLLING EYES",
  "ĊSTUCK-OUT TONGUEĚ AND TIGHTLY-CLOSED EYESğWINKING EYEĊTEARS OF JOYċHERMOMETER",
  "ĊUNEVEN EYES AND WAVY MOUTHĉOUT MOUTHăSIMILE SIGNăTORYĂIRYĂLAFELăLEN LEAF",
  "ĄING DIAGONAL CROSSING NORTH EAST ARROWĚRISING DIAGONALđIN WHITE CIRCLE IN BLACK SQUAREĂMILY",
  "ĂRSI SYMBOLĂTHER CHRISTMASĂX ICONĄMACHINEāEARFUL FACEăTHERĂMALE SIGNăININE ORDINAL INDICATOR",
  "ĂNCERĂRRIS WHEELĄYāFāIELD HOCKEY STICK AND BALLĂGURE DASHćSPACEĂLE CABINETąFOLDERąSEPARATOR",
  "ăM FRAMESąPROJECTORĂNITE PART INTEGRALĂREĄ ENGINEĆXTINGUISHERĄCRACKERĄWORK SPARKLERĈS",
  "ăST PLACE MEDALĆQUARTER MOONĒ SYMBOLēWITH FACEĆSTRONG ISOLATEĂSHĄ CAKE WITH SWIRL DESIGNĄEYE",
  "ĄING POLE AND FISHăTED HAND SIGNĂVE DOT MARKĉPUNCTUATIONāLAG IN HOLEăMINGOăT SHOEĄBREADĄNESS",
  "ĂEUR-DE-LISăXED BICEPSĂOPPY DISKăRAL HEARTăWERĆ PLAYING CARDSĈUNCTUATION MARKĂUSHED FACEĂY",
  "ăING DISCćENVELOPEćSAUCERāOGăGYĂLDERĂNDUEĂOTĄPRINTSĂR ALLăCESăK AND KNIFEĎ WITH PLATE",
  "ĄED PARAGRAPHOSĄINGăM FEEDăTUNE COOKIEĂUNTAINăR BALLOON-SPOKED ASTERISKąCLUB-SPOKED ASTERISK",
  "ĆORNER ARROWS CIRCLING ANTICLOCKWISEąDOT MARKĉPUNCTUATIONąLEAF CLOVERąPOINTED BLACK STAR",
  "ąTEARDROP-SPOKED ASTERISKĄ-PER-EM SPACEĄTH ROOTĂX FACEāRACTION NUMERATOR ONEĉSLASH",
  "ăME WITH AN XċPICTUREċTILESĂEEZING FACEăNCH FRANC SIGNĉIESĂIED SHRIMPĂOG FACE",
  "ăNT-FACING BABY CHICKĆTILTED SHADOWED WHITE RIGHTWARDS ARROWăWNąING FACE WITH OPEN MOUTHāSĂI",
  "āUEL PUMPĂLL BLOCKąMOON SYMBOLĊWITH FACEąOUTER JOINąSTOPĄWIDTH AMPERSANDċPOSTROPHEċSTERISK",
  "ĊBROKEN BARĊCENT SIGNċIRCUMFLEX ACCENTċOLONČMMAĎERCIAL ATĊDIGIT EIGHTĐFIVEđOURĐNINEĐONEĐSEVEN",
  "đIXĐTHREEđWOĐZEROċOLLAR SIGNĊEQUALS SIGNċXCLAMATION MARKĊFULL STOPĊGRAVE ACCENT",
  "ČEATER-THAN SIGNĊHYPHEN-MINUSĊLATIN CAPITAL LETTER AğBğCğDğEğFğGğHğIğJğKğLğMğNğOğPğQğRğSğTğUğV",
  "ğWğXğYğZĐSMALL LETTER AĝBĝCĝDĝEĝFĝGĝHĝIĝJĝKĝLĝMĝNĝOĝPĝQĝRĝSĝTĝUĝVĝWĝXĝYĝZċEFT CURLY BRACKET",
  "ďPARENTHESISďSQUARE BRACKETďWHITE PARENTHESISČSS-THAN SIGNċOW LINEĊMACRONĊNOT SIGNċUMBER SIGN",
  "ĊPERCENT SIGNċLUS SIGNċOUND SIGNĊQUESTION MARKČOTATION MARKĊREVERSE SOLIDUSċIGHT CURLY BRACKET",
  "ĐPARENTHESISĐSQUARE BRACKETĐWHITE PARENTHESISĊSEMICOLONċOLIDUSĊTILDEĊVERTICAL LINEĊWON SIGN",
  "ĊYEN SIGNĂNCTION APPLICATIONăERAL URNĂSEāVS1ă2ă3ă4ĀGAME DIEĂRLICāEARĄ WITH HANDLESĉOUT HUB",
  "ĂM STONEăINIĂNIEĂOMETRIC PROPORTIONĉALLY EQUAL TOđIVALENT TOăRGIAN CAPITAL LETTER AENęNĘBAN",
  "ĘCANęHARĚINęILĘDONĘENĘGANęHANĘHAEĚRęEęIEęOEĘINĘJHANęILĘKANęHARĘLASĘMANĘNARĘONĘPARęHARĘQARĘRAE",
  "ĘSANęHINĘTANĚRĘUNĘVINĘWEĘXANĘYNĘZENęHARĉLETTER AENđINđNĐBANĐCANđHARĒINđILĐDONĐELIFIđNĐFIĐGAN",
  "đHANĐHAEĒRēD SIGNđEđIEđOEĐINĐJHANđILĐKANđHARĐLABIAL SIGNĒSĐMANĐNARĐONĐPARđHARĐQARĐRAEĐSANđHIN",
  "ĐTANĒRđURNED GANĐUNĐVINĐWEĐXANĐYNĐZENđHARĉMTAVRULI CAPITAL LETTER AENĢINĢNġBANġCANĢHARģINĢIL",
  "ġDONġELIFIĢNġFIġGANĢHANġHAEģRĤD SIGNĢEĢIEĢOEġINġJHANĢILġKANĢHARġLABIAL SIGNģSġMANġNARġONġPAR",
  "ĢHARġQARġRAEġSANĢHINġTANģRĢURNED GANġUNġVINġWEġXANġYNġZENĢHARĉPARAGRAPH SEPARATOR",
  "ĉSMALL LETTER AENėNĖBANĖCANėHARĘINėILĖDONĖENĖGANėHANĖHAEĘRėEėIEėOEĖINĖJHANėILĖKANėHARĖLASĖMAN",
  "ĖNARĖONĖPARėHARĖQARĖRAEĖSANėHINĖTANĘRĖUNĖVINĖWEĖXANĖYNĖZENėHARĂRMAN PENNY SIGNĂTA MARKāHOST",
  "āIMEL SYMBOLĂRAFFE FACEăLĄS SYMBOLāLAGOLITIC CAPITAL LETTER AZUĚBIG YUSěUKYĚCAUDATE CHRIVI",
  "ěHRIVIĚDJERVIěOBROěZELOĚFITAěRITUĚGLAGOLIĚHERUĚIěNITIAL IZHEěOTATED BIG YUSĢSMALL YUSěZHEĝITSA",
  "ĚKAKOĚLATINATE MYSLITEěJUDIJEĚMYSLITEĚNASHIĚONUěTUĚPEěOKOJIĚRITSIĚSHAĜTAĞPICěLOVOěMALL YUS",
  "ģ WITH TAILěPIDERY HAĚTROKUTASTI AěSIěVRIDOĚUKUĚVEDEĚYATIěERIĝUĜSTUěOěUĚZEMLJAěHIVETE",
  "ċSMALL LETTER AZUĘBIG YUSęUKYĘCAUDATE CHRIVIęHRIVIĘDJERVIęOBROęZELOĘFITAęRITUĘGLAGOLIĘHERUĘI",
  "ęNITIAL IZHEęOTATED BIG YUSĠSMALL YUSęZHEěITSAĘKAKOĘLATINATE MYSLITEęJUDIJEĘMYSLITEĘNASHIĘONU",
  "ęTUĘPEęOKOJIĘRITSIĘSHAĚTAĜPICęLOVOęMALL YUSġ WITH TAILęPIDERY HAĘTROKUTASTI AęSIęVRIDOĘUKU",
  "ĘVEDEĘYATIęERIěUĚSTUęOęUĘZEMLJAęHIVETEăSS OF MILKĂEICH STARKĂOBE WITH MERIDIANSăVESăWING STAR",
  "āOAL NETăTĂGGLESĂLFERĂRILLAĂTHIC LETTER AHSAďIHVUSĎBAIRKANĎDAGSĎEISĎFAIHUĎGIBAĎHAGLďWAIRĎIGGWS",
  "ďUJAĎJERĎKUSMAĎLAGUSĎMANNAĎNAUTHSďINE HUNDREDĒTYĎOTHALĎPAIRTHRAĎQAIRTHRAĎRAIDAĎSAUILĎTEIWS",
  "ďHIUTHĎURUSĎWINJAāRADUATION CAPăNTHA AU LENGTH MARKĈLETTER AĐAĐIĐUďBAĐHAďCAĐHAďDAĐDAđHAĐHAďEE",
  "ďGAĐHAďHAďIĐIďJAĐHAďKAĐHAďLAĐLAďMAďNAĐGAĐNAĐYAďOOďPAĐHAďRAďSAĐHAĐSAďTAĐHAĐTAđHAďUĐUďVA",
  "ĐEDIC ANUSVARAĕDOUBLE ANUSVARAĐOCALIC LĘLėRĘRďYAĈOMĈSIGN ANUSVARAĎVAGRAHAčCANDRABINDU",
  "ĎOMBINING ANUSVARA ABOVEčNUKTAčPLUTAčVIRAMAďSARGAĈVOWEL SIGN AAĔIĔUēEEēIĔIēOOēUĔUēVOCALIC LĜL",
  "ěRĜRăPESăVE ACCENTĂEATER-THAN ABOVE DOUBLE-LINE EQUAL ABOVE LESS-THAN",
  "ēLESS-THAN ABOVE DOUBLE-LINE EQUALēRIGHTWARDS ARROWēSIMILAR ABOVE LESS-THANěOR EQUAL",
  "ĔLANTED EQUAL ABOVE LESS-THAN ABOVE SLANTED EQUALĎND NOT APPROXIMATEđSINGLE-LINE NOT EQUAL TO",
  "čBESIDE LESS-THANĎUT NOT EQUAL TOĘIVALENT TOčCLOSED BY CURVEĜ ABOVE SLANTED EQUAL",
  "čEQUAL TO OR LESS-THANčOR APPROXIMATEĐEQUAL TOēIVALENT TOĐLESS-THANĐSLANTED EQUAL TO",
  "Ġ WITH DOT ABOVEį LEFTĪINSIDEĎVER EQUAL TOđLAPPING LESS-THANčSIGNčWITH CIRCLE INSIDEĒDOT",
  "ĒQUESTION MARK ABOVEăEK ACROPHONIC ATTIC FIFTYĜ STATERSĝTALENTSĞHOUSANDĥ STATERSęVEě HUNDRED",
  "ģ STATERSĤTALENTSĜSTATERSĜTALENTSĝHOUSANDĤ TALENTSėONE DRACHMAěHALFĜUNDRED STATERSģTALENTS",
  "ěQUARTERěTHOUSAND STATERSĤTALENTSėTEN MNASěSTATERSěTALENTSĜHOUSAND STATERS",
  "đCARYSTIAN FIVE HUNDREDĒYRENAIC TWO DRACHMASđDELPHIC FIVE MNASđEPIDAUREAN FIVE HUNDREDĜTWO",
  "ğ DRACHMASđHERAEUM ONE PLETHRONĔMIONIAN FIFTYĜONEĜTENđMESSENIAN TENđNAXIAN FIVE HUNDRED",
  "đSTRATIAN FIFTY MNASđTHESPIAN FIFTYĜVE HUNDREDğTHOUSANDĚONEĝ HUNDREDĞTHOUSANDĚTENěHIRTY",
  "ĜREE HUNDREDěWOĒROEZENIAN FIFTYġ ALTERNATE FORMĞVEĠ HUNDREDĜTENğ ALTERNATE FORMćNO TELEIA",
  "ćROURA SIGNĈTABE SIGNĆBETA SYMBOLĆCAPITAL DOTTED LUNATE SIGMA SYMBOLĎKAI SYMBOLĎLETTER ALPHA",
  "Ě WITH DASIAĥ AND OXIAĮ AND PROSGEGRAMMENIĪPERISPOMENIĵ AND PROSGEGRAMMENIīROSGEGRAMMENIĪVARIA",
  "į AND PROSGEGRAMMENIĠMACRONĠOXIAĠPROSGEGRAMMENIġSILIĥ AND OXIAĮ AND PROSGEGRAMMENIĪPERISPOMENI",
  "ĵ AND PROSGEGRAMMENIīROSGEGRAMMENIĪVARIAį AND PROSGEGRAMMENIĠTONOSĠVARIAġRACHYĖRCHAIC SAMPI",
  "ĕBETAĕCHIĕDELTAĕEPSILONĜ WITH DASIAħ AND OXIAĬVARIAĢOXIAĢPSILIħ AND OXIAĬVARIAĢTONOSĢVARIAĖTA",
  "Ę WITH DASIAģ AND OXIAĬ AND PROSGEGRAMMENIĨPERISPOMENIĳ AND PROSGEGRAMMENIĩROSGEGRAMMENIĨVARIA",
  "ĭ AND PROSGEGRAMMENIĞOXIAĞPROSGEGRAMMENIğSILIģ AND OXIAĬ AND PROSGEGRAMMENIĨPERISPOMENI",
  "ĳ AND PROSGEGRAMMENIĩROSGEGRAMMENIĨVARIAĭ AND PROSGEGRAMMENIĞTONOSĞVARIAĕGAMMAĕHETAĕIOTA",
  "ę WITH DASIAĤ AND OXIAĩPERISPOMENIĩVARIAĠIALYTIKAğMACRONğOXIAğPSILIĤ AND OXIAĩPERISPOMENI",
  "ĩVARIAğTONOSğVARIAĠRACHYĕKAPPAĕLAMDAĕMUĕNUĕOMEGAĚ WITH DASIAĥ AND OXIAĮ AND PROSGEGRAMMENI",
  "ĪPERISPOMENIĵ AND PROSGEGRAMMENIīROSGEGRAMMENIĪVARIAį AND PROSGEGRAMMENIĠOXIAĠPROSGEGRAMMENI",
  "ġSILIĥ AND OXIAĮ AND PROSGEGRAMMENIĪPERISPOMENIĵ AND PROSGEGRAMMENIīROSGEGRAMMENIĪVARIA",
  "į AND PROSGEGRAMMENIĠTONOSĠVARIAėICRONĜ WITH DASIAħ AND OXIAĬVARIAĢOXIAĢPSILIħ AND OXIAĬVARIA",
  "ĢTONOSĢVARIAĕPAMPHYLIAN DIGAMMAĖHIĖIĖSIĕRHOĘ WITH DASIAĕSANĖHOĖIGMAĕTAUĖHETAĕUPSILON",
  "Ĝ WITH DASIAħ AND OXIAĬPERISPOMENIĬVARIAģIALYTIKAĢMACRONĢOXIAĢTONOSĢVARIAģRACHYĕXIĕYOTĕZETA",
  "ďUNATE SIGMA SYMBOLĎREVERSED DOTTED LUNATE SIGMA SYMBOLėLUNATE SIGMA SYMBOLĎTHETA SYMBOLĆDASIA",
  "ċ AND OXIAĐPERISPOMENIĐVARIAćIALYTIKA AND OXIAĔPERISPOMENIĔVARIAĐTONOSćRACHMA SIGN",
  "ĆFIVE OBOLS SIGNćOUR OBOLS SIGNĆGRAMMA SIGNĆINDICTION SIGNĈSTRUMENTAL NOTATION SYMBOL-1Ĥ1Ĥ2Ĥ3",
  "Ĥ4Ĥ7Ĥ8Ĥ9ģ2Ĥ3Ĥ4Ĥ5Ĥ6Ĥ7Ĥ9ģ30Ĥ2Ĥ6Ĥ7Ĥ8Ĥ9ģ4Ĥ0Ĥ2Ĥ3Ĥ5Ĥ7Ĥ8Ĥ9ģ5Ĥ0Ĥ1Ĥ2Ĥ3Ĥ4ģ7ģ8ĆKAI SYMBOLĈPPA SYMBOL",
  "ćORONISćYATHOS BASE SIGNĆLETTER ARCHAIC KOPPAčDIGAMMAčKOPPAčSAMPIĎMALL CAPITAL GAMMAěLAMDA",
  "ěOMEGAěPIĜSIěRHOĎTIGMAčYOTćITRA SIGNćOWER NUMERAL SIGNćUNATE EPSILON SYMBOLčSIGMA SYMBOL",
  "ĆMETRETES SIGNćUSICAL LEIMMAĆNUMERAL SIGNĆOBOL SIGNćNE HALF SIGNē ALTERNATE FORMĊQUARTER SIGN",
  "ćUNKIA SIGNćXIAĆPERISPOMENIćHI SYMBOLćI SYMBOLćROSGEGRAMMENIćSILIċ AND OXIAĐPERISPOMENIĐVARIA",
  "ĆQUESTION MARKĆREVERSED LUNATE EPSILON SYMBOLćHO SYMBOLĊWITH STROKE SYMBOLĆSINUSOID SIGN",
  "ćMALL DOTTED LUNATE SIGMA SYMBOLČLETTER ALPHAĘ WITH DASIAģ AND OXIAĬ AND YPOGEGRAMMENI",
  "ĨPERISPOMENIĳ AND YPOGEGRAMMENIĨVARIAĭ AND YPOGEGRAMMENIĨYPOGEGRAMMENIĞMACRONĞOXIA",
  "Ģ AND YPOGEGRAMMENIĞPERISPOMENIĩ AND YPOGEGRAMMENIğSILIģ AND OXIAĬ AND YPOGEGRAMMENI",
  "ĨPERISPOMENIĳ AND YPOGEGRAMMENIĨVARIAĭ AND YPOGEGRAMMENIĨYPOGEGRAMMENIĞTONOSĞVARIA",
  "ģ AND YPOGEGRAMMENIğRACHYĞYPOGEGRAMMENIĔRCHAIC KOPPAěSAMPIēBETAēCHIēDELTAĔIGAMMAēEPSILON",
  "Ě WITH DASIAĥ AND OXIAĪVARIAĠOXIAĠPSILIĥ AND OXIAĪVARIAĠTONOSĠVARIAĔTAĖ WITH DASIAġ AND OXIA",
  "Ī AND YPOGEGRAMMENIĦPERISPOMENIı AND YPOGEGRAMMENIĦVARIAī AND YPOGEGRAMMENIĦYPOGEGRAMMENIĜOXIA",
  "Ġ AND YPOGEGRAMMENIĜPERISPOMENIħ AND YPOGEGRAMMENIĝSILIġ AND OXIAĪ AND YPOGEGRAMMENI",
  "ĦPERISPOMENIı AND YPOGEGRAMMENIĦVARIAī AND YPOGEGRAMMENIĦYPOGEGRAMMENIĜTONOSĜVARIA",
  "ġ AND YPOGEGRAMMENIĜYPOGEGRAMMENIēFINAL SIGMAēGAMMAēHETAēIOTAė WITH DASIAĢ AND OXIA",
  "ħPERISPOMENIħVARIAĞIALYTIKAĦ AND OXIAīPERISPOMENIīTONOSīVARIAĝMACRONĝOXIAĝPERISPOMENIĞSILI",
  "Ģ AND OXIAħPERISPOMENIħVARIAĝTONOSĝVARIAĞRACHYēKAPPAĔOPPAēLAMDAēMUēNUēOMEGAĘ WITH DASIA",
  "ģ AND OXIAĬ AND YPOGEGRAMMENIĨPERISPOMENIĳ AND YPOGEGRAMMENIĨVARIAĭ AND YPOGEGRAMMENI",
  "ĨYPOGEGRAMMENIĞOXIAĢ AND YPOGEGRAMMENIĞPERISPOMENIĩ AND YPOGEGRAMMENIğSILIģ AND OXIA",
  "Ĭ AND YPOGEGRAMMENIĨPERISPOMENIĳ AND YPOGEGRAMMENIĨVARIAĭ AND YPOGEGRAMMENIĨYPOGEGRAMMENI",
  "ĞTONOSĞVARIAģ AND YPOGEGRAMMENIĞYPOGEGRAMMENIĕICRONĚ WITH DASIAĥ AND OXIAĪVARIAĠOXIAĠPSILI",
  "ĥ AND OXIAĪVARIAĠTONOSĠVARIAēPAMPHYLIAN DIGAMMAĔHIĔIĔSIēRHOĖ WITH DASIAĜPSILIēSAMPIĕNĔHOĔIGMA",
  "ĔTIGMAēTAUĔHETAēUPSILONĚ WITH DASIAĥ AND OXIAĪPERISPOMENIĪVARIAġIALYTIKAĩ AND OXIAĮPERISPOMENI",
  "ĮTONOSĮVARIAĠMACRONĠOXIAĠPERISPOMENIġSILIĥ AND OXIAĪPERISPOMENIĪVARIAĠTONOSĠVARIAġRACHYēXI",
  "ēZETAČREVERSED DOTTED LUNATE SIGMA SYMBOLĕLUNATE SIGMA SYMBOLćUBSCRIPT SMALL LETTER BETAĝCHI",
  "ĝGAMMAĝPHIĝRHOćYMBOL TAU RHOĆTALENT SIGNćHETA SYMBOLĈREE OBOLS SIGNČQUARTERS SIGNćONOS",
  "ćRYBLION BASE SIGNćWO OBOLS SIGNĊTHIRDS SIGNĆUPSILON WITH ACUTE AND HOOK SYMBOL",
  "ēDIAERESIS AND HOOK SYMBOLēHOOK SYMBOLĆVARIAćOCAL NOTATION SYMBOL-1ĝ0ĝ1ĝ2ĝ3ĝ4ĝ5ĝ6ĝ7ĝ8ĝ9Ĝ2ĝ0ĝ1",
  "ĝ2ĝ3ĝ4Ĝ3Ĝ4Ĝ5ĝ0ĝ1ĝ2ĝ3ĝ4Ĝ6Ĝ7Ĝ8Ĝ9ĆXESTES SIGNĆYEAR SIGNćPOGEGRAMMENIĆZERO SIGNĄN APPLEĆBOOKĆHEART",
  "ĆSALADĂIMACING FACEăNNING CAT FACE WITH SMILING EYESĉFACEč WITH ONE LARGE AND ONE SMALL EYE",
  "ēSMILING EYESĔTAR EYESĂOUP MARKĆSEPARATORăWING HEARTāSāUARANI SIGNĄDSMANĂIDE DOGăTAR",
  "ĂJARATI ABBREVIATION SIGNĉDIGIT EIGHTďFIVEĐOURďNINEďONEďSEVENĐIXďTHREEĐWOďZEROĉLETTER AđAđIđU",
  "ĐBAđHAĐCAđHAĐDAđDAĒHAđHAĐEĐGAđHAĐHAĐIđIĐJAđHAĐKAđHAĐLAđLAĐMAĐNAđGAđNAđYAĐOĐPAđHAĐRAĐSAđHAđSA",
  "ĐTAđHAđTAĒHAĐUđUĐVAđOCALIC LęLĘRęRĐYAĐZHAĉOMĉRUPEE SIGNĉSIGN ANUSVARAďVAGRAHAĎCANDRABINDU",
  "ďIRCLE NUKTA ABOVEĎMADDAHĎNUKTAĎSHADDAďUKUNĎTHREE-DOT NUKTA ABOVEďWO-CIRCLE NUKTA ABOVEĎVIRAMA",
  "ĐSARGAĉVOWEL CANDRA EĖOďSIGN AAĕIĕUĔCANDRA EěOĔEĔIĕIĔOĔUĕUĔVOCALIC LĝLĜRĝR",
  "ĂNJALA GONDI DIGIT EIGHTĔFIVEĕOURĔNINEĔONEĔSEVENĕIXĔTHREEĕWOĔZEROĎLETTER AĖAĖIĖUĕBAĖHAĕCAĖHA",
  "ĕDAĖDAėHAĖHAĕEEĕGAĖHAĕHAĕIĖIĕJAĖHAĕKAĖHAĕLAĖLAĕMAĕNAĖGAĕOOĕPAĖHAĕRAĕSAĕTAĖHAĖTAėHAĕUĖUĕVAĕYA",
  "ĎOMĎSIGN ANUSVARAēVISARGAĎVIRAMAďOWEL SIGN AAĚIĚUęEEęIĚIęOOęUĚUĂRMUKHI ABBREVIATION SIGNĊDDAK",
  "ĉDIGIT EIGHTďFIVEĐOURďNINEďONEďSEVENĐIXďTHREEĐWOďZEROĉEK ONKARĉIRIĉLETTER AđAđIđUĐBAđHAĐCAđHA",
  "ĐDAđDAĒHAđHAĐEEĐFAĐGAđHAĒHAĐHAĐIđIĐJAđHAĐKAđHAĒHAĐLAđLAĐMAĐNAđGAđNAđYAĐOOĐPAđHAĐRAđRAĐSAđHAĐTA",
  "đHAđTAĒHAĐUđUĐVAĐYAĐZAĉSIGN ADAK BINDIĎBINDIĎNUKTAĎUDAATĎVIRAMAĐSARGAĎYAKASHĉTIPPIĉURA",
  "ĉVOWEL SIGN AAĕIĕUĔEEĔIĕIĔOOĔUĕUĀHADESĂIR SPACEĄCUTĂLFWIDTH BLACK SQUAREĊDOWNWARDS ARROW",
  "ĊFORMS LIGHT VERTICALĊHANGUL FILLERđLETTER AęEĘCHIEUCHęIEUCĘEęOęUĘHIEUHĘIęEUNGĘKHIEUKHęIYEOK",
  "Ğ-SIOSĘMIEUMĘNIEUNĝ-CIEUCĞHIEUHĘOęEĘPHIEUPHęIEUPĝ-SIOSĘRIEULĝ-HIEUHĞKIYEOKĞMIEUMĞPHIEUPHğIEUP",
  "ĞSIOSĞTHIEUTHĘSIOSęSANGCIEUCĝKIYEOKĝPIEUPĝSIOSĝTIKEUTĘTHIEUTHęIKEUTĘUĘWAĚEęEĚOęIĘYAĚEęEĚOęIęO",
  "ęUĊIDEOGRAPHIC COMMAĖFULL STOPĊKATAKANA LETTER AĚEĚHAěEěIěOěUĚIĚKAěEěIěOěUĚMAěEěIěOěUĚNěAěEěI",
  "ěOěUĚOĚRAěEěIěOěUĚSAěEěIěMALL AĠEĠIĠOĠTUĠUĠYAġOġUěOěUĚTAěEěIěOěUĚUĚWAěOĚYAěOěUēMIDDLE DOT",
  "ēSEMI-VOICED SOUND MARKēVOICED SOUND MARKĒ-HIRAGANA PROLONGED SOUND MARKĊLEFT CORNER BRACKET",
  "ĎWARDS ARROWĊRIGHT CORNER BRACKETďWARDS ARROWĊUPWARDS ARROWĊWHITE CIRCLEĂMBURGERăMERĆ AND PICK",
  "ċSICKLEċWRENCHăSAĄTER FACEĂND WITH INDEX AND MIDDLE FINGERS CROSSEDĐFINGER AND THUMB CROSSED",
  "ĄBAGĆLLĄSHAKEăGUL CHOSEONG CEONGCHIEUMCHIEUCHĜIEUCěSIOSĜSANGCIEUCĠSIOSđHIEUCHė-HIEUHĘKHIEUKH",
  "ēTUEUMCHIEUCHęIEUCĘSIOSęSANGCIEUCĝSIOSđIEUCĕ-IEUNGĐFILLERĐHIEUHĕ-SIOSĐIEUNGĕ-CHIEUCHėIEUC",
  "ĖHIEUHĖKIYEOKĖMIEUMĖPANSIOSėHIEUPHėIEUPĖRIEULĖSIOSĖTHIEUTHėIKEUTĐKAPYEOUNMIEUMĘPHIEUPHęIEUP",
  "ĘRIEULĘSSANGPIEUPđHIEUKHđIYEOKĖ-TIKEUTĐMIEUMĕ-KIYEOKĖPIEUPĖSIOSĖTIKEUTĐNIEUNĕ-CIEUCĖHIEUH",
  "ĖKIYEOKĖPIEUPĖSIOSĖTIKEUTĐPANSIOSđHIEUPHė-HIEUHĘPIEUPđIEUPĕ-CHIEUCHėIEUCĖHIEUHĖKHIEUKHėIYEOK",
  "ĖNIEUNĖPHIEUPHĖSIOSĚ-CIEUCěKIYEOKěPIEUPěTHIEUTHĜIKEUTėSANGSIOSĖTHIEUTHėIKEUTĐRIEULĕ-CIEUC",
  "ĖHIEUHĖKAPYEOUNPIEUPėHIEUKHėIYEOKĖMIEUMĖNIEUNĖPIEUPĖSIOSėSANGKIYEOKěPIEUPěTIKEUTĖTIKEUTĐSIOS",
  "Ĕ-CHIEUCHĖIEUCĕHIEUHĕIEUNGĕKHIEUKHĖIYEOKĕMIEUMĕNIEUNĕPHIEUPHĖIEUPĚ-KIYEOKĕRIEULĕSSANGSIOS",
  "ĕTHIEUTHĖIKEUTđSANGCIEUCĚ-HIEUHĕHIEUHĕIEUNGĕKIYEOKĕNIEUNĕPIEUPĕRIEULĕSIOSę-PIEUPĕTHIEUTHĖIKEUT",
  "ĕYEORINHIEUHĐTHIEUTHđIKEUTĖ-CIEUCėKIYEOKėMIEUMėPIEUPėRIEULėSIOSĐYEORINHIEUHĒSIEUNG",
  "ćDOUBLE DOT TONE MARKćFILLERćJONGSEONG CHIEUCHĒIEUCĖ-PIEUPėSSANGPIEUPđHIEUHĖ-MIEUMėNIEUNėPIEUP",
  "ėRIEULđIEUNGĖ-KHIEUKHĘIYEOKėSSANGKIYEOKđKAPYEOUNMIEUMęPHIEUPHĚIEUPęRIEULĒHIEUKHĒIYEOKė-CHIEUCH",
  "ĘHIEUHĘKHIEUKHĘNIEUNĘPIEUPĘRIEULĘSIOSĜ-KIYEOKđMIEUMĖ-CHIEUCHĘIEUCėHIEUHėKIYEOKėNIEUNėPANSIOS",
  "ĘIEUPĜ-SIOSėRIEULėSIOSĘSANGNIEUNĜSIOSđNIEUNĖ-CHIEUCHĘIEUCėHIEUHėKIYEOKėPANSIOSėRIEULėSIOS",
  "ėTHIEUTHĘIKEUTđPANSIOSĘ-KAPYEOUNPIEUPęPIEUPĒHIEUPHĘ-PIEUPęSIOSęTHIEUTHĒIEUPĖ-CHIEUCHĘIEUC",
  "ėHIEUHėMIEUMėPHIEUPHėRIEULĜ-PHIEUPHėSIOSě-TIKEUTėTIKEUTđRIEULĖ-HIEUHėKAPYEOUNPIEUPĘHIEUKH",
  "ĘIYEOKĝ-HIEUHĞSIOSėMIEUMĜ-HIEUHĝKIYEOKĝSIOSėNIEUNėPANSIOSĘHIEUPHĘIEUPĜ-HIEUHĝPHIEUPHĝSIOS",
  "ĝTIKEUTėSIOSĘSANGKIYEOKĜSIOSėTHIEUTHĘIKEUTĝ-HIEUHėYEORINHIEUHĢ-HIEUHęSIEUNGđSIOSĕ-CHIEUCHėIEUC",
  "ĖHIEUHĖKAPYEOUNPIEUPėIYEOKĖMIEUMĖPANSIOSėIEUPĖRIEULĖTHIEUTHėIKEUTĒSANGCIEUCĖIEUNGĖKIYEOKĖMIEUM",
  "ĖNIEUNĖPIEUPĖRIEULě-KHIEUKHĖSIOSĚ-KIYEOKěTIKEUTĖTIKEUTĜ-PIEUPĖYESIEUNGđTHIEUTHĒIKEUTė-CHIEUCH",
  "ęIEUCĘKIYEOKĘPIEUPĘRIEULĘSIOSĜ-KIYEOKĘTHIEUTHđYEORINHIEUHēSIEUNGę-HIEUHĚKHIEUKHěIYEOKĚMIEUM",
  "ĚPANSIOSĚSIOSěSANGKIYEOKĈUNGSEONG AĒ-EUēOēUĒEĒRAEAĖ-AėEĘOėIėUđEĒOē-EUĔOĔUĒUē-AĔEĕOĕUĔOĔU",
  "đFILLERđIĒ-AĔRAEAēEUēIēOĔ-IēUēYAĕ-OĕEĔEĕOĔOĔUđOĒ-EĔOēOĔ-IēUēYAĕEĔEĕOĒEđSSANGARAEAđUĒ-AĔEēEO-EU",
  "ēI-IēUēYEĕOđWAēEĒEēOĒIđYAē-OĔUĔYOēEĒEēOĔ-OĕUĕYAĒIē-UĒOē-AĕEĔEOĔIĔOĔYAĖEĕEOĒUē-AĕEĔEĕOĔIĔOĔUĔYE",
  "ĖOćLETTER AďEďRAEAēEĎCHIEUCHďIEUCĎEďOďUĎHIEUHĎIďEUNGĎKAPYEOUNMIEUMĖPHIEUPHėIEUPĖSSANGPIEUP",
  "ďHIEUKHďIYEOKĔ-SIOSĎMIEUMē-PANSIOSĕIEUPĔSIOSĎNIEUNē-CIEUCĔHIEUHĔPANSIOSĔSIOSĔTIKEUTĎOďE",
  "ĎPANSIOSďHIEUPHďIEUPē-CIEUCĔKIYEOKĔSIOSĘ-KIYEOKęTIKEUTĔTHIEUTHĕIKEUTĎRIEULē-HIEUHĔKIYEOKĚ-SIOS",
  "ĔMIEUMĔPANSIOSĕHIEUPHĕIEUPę-SIOSĔSIOSĔTHIEUTHĕIKEUTĔYEORINHIEUHĎSIOSĒ-CIEUCēKIYEOKēNIEUNēPIEUP",
  "ēTIKEUTďSANGCIEUCēHIEUHēIEUNGēKIYEOKēNIEUNēPIEUPēSIOSēTIKEUTĎTHIEUTHďIKEUTĎUĎWAĐEďEĐOďIĎYAĐEďE",
  "ĐOđRINHIEUHĐSIEUNGĖ-PANSIOSėSIOSďIďOĐ-IđYAēEďUĐ-IđYEēOćSINGLE DOT TONE MARKĄZHOU NUMERAL EIGHT",
  "đFIVEĒOURđNINEđONEđSEVENĒIXđTENĒHIRTYēREEĒWENTYēOăIFI ROHINGYA DIGIT EIGHTĖFIVEėOURĖNINEĖONE",
  "ĖSEVENėIXĖTHREEėWOĖZEROĐLETTER AėBAėCAėDAĘDAėFAėGAėHAėJAėKAĘHAĘINNA WAĝYAėLAėMAėNAĘGAĘYAėPAėRA",
  "ĘRAėSAĘHAėTAĘTAėVAėWAėYAėZAĐMARK NA KHONNAĕSAKINĐSIGN HARBAHAYĕTAHALAėNAėSSIĐVOWEL AĖEĖIĖOĖU",
  "ăUNOO LETTER AďBAďDAďGAďHAďIďKAďLAďMAďNAĐGAďPAďRAďSAďTAďUďWAďYAĈSIGN PAMUDPODĈVOWEL SIGN IēU",
  "ĂPPY PERSON RAISING ONE HANDĂRD DISKĂTCHING CHICKăRAN LETTER ALEPHďYNĎBETHĎDALETH-RESHĎGIMEL",
  "ĎHEĐTHĎKAPHĎLAMEDHĎMEMĎNUNĎPEĎQOPHĎSADHEĐMEKHďHINĎTAWďETHĎWAWĎYODHĎZAYNćNUMBER FIVEĎONE",
  "đ HUNDREDĎTENďWENTYāEADPHONEĄSTONEĉ GRAVEYARD SYMBOLăR-NO-EVIL MONKEYĄT DECORATIONĆHANDS",
  "ĆWITH ARROWċRIBBONċTIP ON THE LEFTăVY AMPERSAND ORNAMENTćRROW SHAFT WIDTH ONEě HALFĜTHIRD",
  "ĘTWO THIRDSćSTERISKĆBALLOT XćLACK CURVED DOWNWARDS AND RIGHTWARDS ARROW",
  "ēUPWARDS AND RIGHTWARDS ARROWČHEARTċ-FEATHERED NORTH EAST ARROWĖRIGHTWARDS ARROW",
  "ĖSOUTH EAST ARROWĆCHECK MARKĉVRON SNOWFLAKEćIRCLEČ WITH CIRCLE INSIDE",
  "ĒSTROKE AND TWO DOTS ABOVEČD SALTIREćONCAVE-POINTED BLACK RIGHTWARDS ARROW",
  "ĆDASHED TRIANGLE-HEADED RIGHTWARDS ARROWćIVISION SIGNćOLLAR SIGN",
  "ĈUBLE COMMA QUOTATION MARK ORNAMENTčTURNED COMMA QUOTATION MARK ORNAMENT",
  "ĈWNWARDS ARROW WITH EQUILATERAL ARROWHEADěLARGE EQUILATERAL ARROWHEADĆEIGHT POINTED BLACK STAR",
  "ĔPINWHEEL STARĔRECTILINEAR BLACK STARČSPOKED ASTERISKČTEARDROP-SPOKED PROPELLER ASTERISK",
  "ćQUALS SIGNćXCLAMATION MARK ORNAMENTėSYMBOLĆFIVE POINTED BLACK STARċSPOKED ASTERISK",
  "ćOUR BALLOON-SPOKED ASTERISKĆGREEK CROSSĆHEART EXCLAMATION MARK ORNAMENTćORIZONTAL FILL",
  "ĆINTERROBANG ORNAMENTĆLARGE CIRCLEĈTIN CROSSćEFT-POINTING ANGLE BRACKET ORNAMENT",
  "ĚQUOTATION MARK ORNAMENTĊWARDS ARROW WITH EQUILATERAL ARROWHEADěLARGE EQUILATERAL ARROWHEAD",
  "ćIGATURE OPEN ET ORNAMENTćOW DOUBLE COMMA QUOTATION MARK ORNAMENT",
  "ĊSINGLE COMMA QUOTATION MARK ORNAMENTĉER RIGHT-SHADOWED WHITE RIGHTWARDS ARROWĆMINUS SIGN",
  "ćULTIPLICATION XĆNORTH EAST ARROWđPOINTING BUDĚVINE LEAFČWEST POINTING BUDĚVINE LEAF",
  "ĆOPEN CENTRE CROSSćUTLINED BLACK STARćVAL WITH OVAL INSIDEĆPLUS SIGN",
  "ĆRIGHT-POINTING ANGLE BRACKET ORNAMENTěQUOTATION MARK ORNAMENTċWARDS ARROW",
  "Ė WITH EQUILATERAL ARROWHEADĜLARGE EQUILATERAL ARROWHEADćOUND-TIPPED RIGHTWARDS ARROWĆSALTIRE",
  "ĈNS-SERIF INTERROBANG ORNAMENTćCRIPT LIGATURE ET ORNAMENTćINGLE COMMA QUOTATION MARK ORNAMENT",
  "čTURNED COMMA QUOTATION MARK ORNAMENTĈX POINTED BLACK STARĊSPOKED ASTERISKćOUTH EAST ARROW",
  "đPOINTING BUDĚVINE LEAFČWEST POINTING BUDĚVINE LEAFćPARKLEĆTEARDROP-SHANKED RIGHTWARDS ARROW",
  "ĐPOKED ASTERISKĖPINWHEEL ASTERISKćRIANGLE-HEADED RIGHTWARDS ARROWćWELVE POINTED BLACK STAR",
  "ĕPINWHEEL STARĆUPPER RIGHT-SHADOWED WHITE RIGHTWARDS ARROW",
  "ĈWARDS ARROW WITH EQUILATERAL ARROWHEADęLARGE EQUILATERAL ARROWHEADĆVERTICAL BAR",
  "ĆWEDGE-TAILED RIGHTWARDS ARROWćHITE CIRCLEČDOWN-POINTING TRIANGLEČSQUARE",
  "ćIDE-HEADED RIGHTWARDS ARROWĂBREW ACCENT ATNAH HAFUKHĎDARGAďEHIĎETNAHTAĎGERESHĔ MUQDAMđSHAYIM",
  "ĎILUYĎMAHAPAKHďERKHAĔ KEFULAďUNAHĎOLEĎPASHTAĐZERĎQADMAĐRNEY PARAĎREVIAĎSEGOLďHALSHELET",
  "ĎTELISHA GEDOLAĖQETANAĐVIRďIPEHAĎYERAH BEN YOMOĐTIVĎZAQEF GADOLĔQATANĐRQAďINORćLETTER ALEF",
  "Ē WITH MAPIQĘPATAHĘQAMATSĐTERNATIVE AYINĚPLUS SIGNďYINĎBETđ WITH DAGESHėRAFEĎDALET",
  "ē WITH DAGESHĎFINAL KAFė WITH DAGESHĔMEMĔNUNĔPEĖ WITH DAGESHĔTSADIĎGIMELē WITH DAGESHĎHE",
  "Đ WITH MAPIQĐTĎKAFđ WITH DAGESHėRAFEĎLAMEDē WITH DAGESHĎMEMđ WITH DAGESHĎNUNđ WITH DAGESHĎPE",
  "Đ WITH DAGESHĖRAFEĎQOFđ WITH DAGESHĎRESHĒ WITH DAGESHĎSAMEKHĔ WITH DAGESHďHINĒ WITH DAGESH",
  "Ğ AND SHIN DOTĤIN DOTĘSHIN DOTęIN DOTĎTAVđ WITH DAGESHďETđ WITH DAGESHďSADIē WITH DAGESHĎVAV",
  "đ WITH DAGESHėHOLAMĎWIDE ALEFēDALETēFINAL MEMēHEēKAFēLAMEDēRESHēTAVĎYODđ WITH DAGESHėHIRIQ",
  "ĎZAYINē WITH DAGESHĈIGATURE ALEF LAMEDĐYIDDISH DOUBLE VAVğYODĘVAV YODĘYOD YOD PATAH",
  "ćMARK LOWER DOTČMASORA CIRCLEČUPPER DOTćPOINT DAGESH OR MAPIQčHATAF PATAHēQAMATSēSEGOLĎIRIQ",
  "ĎOLAMĒ HASER FOR VAVčJUDEO-SPANISH VARIKAčMETEGčPATAHčQAMATSē QATANĎUBUTSčRAFEčSEGOLĎHEVA",
  "ďIN DOTĎIN DOTčTSEREĈUNCTUATION GERESHĖSHAYIMēMAQAFēNUN HAFUKHAēPASEQēSOF PASUQćYOD TRIANGLE",
  "ĂDGEHOGĂLICOPTERăLSCHREIBER PAUSE SYMBOLăM SYMBOLĄET WITH WHITE CROSSĂNTAIGANA LETTER A-1Ĕ2Ĕ3",
  "ĔWOĒE-1Ĕ2Ĕ3Ĕ4Ĕ5Ĕ6ĒHA-1Ė0Ė1ĕ2ĕ3ĕ4ĕ5ĕ6ĕ7ĕ8ĕ9ēE-1ĕ2ĕ3ĕ4ĕ5ĕ6ĕ7ēI-1ĕ2ĕ3ĕ4ĕ5ĕ6ĕ7ēO-1ĕ2ĕ3ĕ4ĕ5ĕ6ĕ7ĕ8",
  "ēU-1ĕ2ĕ3ĒI-1Ĕ2Ĕ3Ĕ4ĒKA-1Ė0Ė1ĕ2ĕ3ĕ4ĕ5ĕ6ĕ7ĕ8ĕ9ĕKEēE-1ĕ2ĕ3ĕ4ĕ5ĕ6ēI-1ĕ2ĕ3ĕ4ĕ5ĕ6ĕ7ĕ8ēO-1ĕ2ĕ3ĕKIēU-1",
  "ĕ2ĕ3ĕ4ĕ5ĕ6ĕ7ĒMA-1ĕ2ĕ3ĕ4ĕ5ĕ6ĕ7ēE-1ĕ2ĕMAēI-1ĕ2ĕ3ĕ4ĕ5ĕ6ĕ7ēO-1ĕ2ĕ3ĕ4ĕ5ĕ6ēU-1ĕ2ĕ3ĕ4ĒN-MU-MO-1Ě2ēA-1",
  "ĕ2ĕ3ĕ4ĕ5ĕ6ĕ7ĕ8ĕ9ēE-1ĕ2ĕ3ĕ4ĕ5ĕ6ĕKOēI-1ĕ2ĕ3ĕ4ĕ5ĕ6ĕ7ĕTEēO-1ĕ2ĕ3ĕ4ĕ5ēU-1ĕ2ĕ3ĒO-1Ĕ2Ĕ3ĒRA-1ĕ2ĕ3ĕ4",
  "ēE-1ĕ2ĕ3ĕ4ēI-1ĕ2ĕ3ĕ4ĕ5ĕ6ĕ7ēO-1ĕ2ĕ3ĕ4ĕ5ĕ6ēU-1ĕ2ĕ3ĕ4ĕ5ĕ6ĒSA-1ĕ2ĕ3ĕ4ĕ5ĕ6ĕ7ĕ8ēE-1ĕ2ĕ3ĕ4ĕ5ēI-1ĕ2ĕ3",
  "ĕ4ĕ5ĕ6ēO-1ĕ2ĕ3ĕ4ĕ5ĕ6ĕ7ēU-1ĕ2ĕ3ĕ4ĕ5ĕ6ĕ7ĕ8ĒTA-1ĕ2ĕ3ĕ4ēE-1ĕ2ĕ3ĕ4ĕ5ĕ6ĕ7ĕ8ĕ9ēI-1ĕ2ĕ3ĕ4ĕ5ĕ6ĕ7ēO-1ĕ2",
  "ĕ3ĕ4ĕ5ĕ6ĕRAēU-1ĕ2ĕ3ĕ4ĕTOĒU-1Ĕ2Ĕ3Ĕ4Ĕ5ĒWA-1ĕ2ĕ3ĕ4ĕ5ēE-1ĕ2ĕ3ĕ4ēI-1ĕ2ĕ3ĕ4ĕ5ēO-1ĕ2ĕ3ĕ4ĕ5ĕ6ĕ7ĒYA-1ĕ2",
  "ĕ3ĕ4ĕ5ĕYOēO-1ĕ2ĕ3ĕ4ĕ5ĕ6ēU-1ĕ2ĕ3ĕ4ĂRBăMITIAN CONJUGATE MATRIXĂXAGRAM FOR ABUNDANCE",
  "ĎFTER COMPLETIONĎPPROACHčBEFORE COMPLETIONĎITING THROUGHĎREAKTHROUGHčCOMING TO MEETďNFLICT",
  "ĐTEMPLATIONčDARKENING OF THE LIGHTĎECREASEďLIVERANCEďVELOPMENTĎIFFICULTY AT THE BEGINNING",
  "ďSPERSIONĎURATIONčENTHUSIASMčFELLOWSHIPĎOLLOWINGčGATHERING TOGETHERĎRACEďEAT POSSESSIONĕWER",
  "ĔREPONDERANCEēTAMINGčHOLDING TOGETHERčINCREASEďFLUENCEďNER TRUTHĐOCENCEčLIMITATIONčMODESTY",
  "ďUTH CORNERSčOBSTRUCTIONĎPPOSITIONĐRESSIONčPEACEĎROGRESSĎUSHING UPWARDčRETREATĐURNďVOLUTION",
  "čSMALL PREPONDERANCEēTAMINGĎPLITTING APARTĎTANDSTILLčTHE ABYSMAL WATERĒRMYēOUSING THUNDER",
  "đCAULDRONĒLINGING FIREĒREATIVE HEAVENđFAMILYđGENTLE WINDđJOYOUS LAKEđKEEPING STILL MOUNTAIN",
  "đMARRYING MAIDENđRECEPTIVE EARTHđWANDERERĒELLĎREADINGčWAITINGĎORK ON THE DECAYED",
  "čYOUTHFUL FOLLYāIBISCUSĂGH BRIGHTNESS SYMBOLąOCTET PRESETąVOLTAGE SIGNĄ-HEELED SHOE",
  "ąSPEED TRAINĐ WITH BULLET NOSEĂKING BOOTĂNDU TEMPLEĂPPOPOTAMUSĂRAGANA DIGRAPH YORI",
  "ĉITERATION MARKĉLETTER AđRCHAIC WUĘYEĐBAđEđIđOđUĐDAđEđIđOđUĐEĐGAđEđIđOđUĐHAđEđIđOđUĐIĐKAđEđIđO",
  "đUĐMAđEđIđOđUĐNđAđEđIđOđUĐOĐPAđEđIđOđUĐRAđEđIđOđUĐSAđEđIđMALL AĖEĖIĖKAėEĖOĖTUĖUĖWAėEėIėOĖYAėO",
  "ėUđOđUĐTAđEđIđOđUĐUĐVUĐWAđEđIđOĐYAđOđUĐZAđEđIđOđUĉVOICED ITERATION MARKĂSTORIC SITEāOCHOĂLE",
  "ăLOW QUILT SQUARE ORNAMENTĜ IN BLACK SQUAREĂMOTHETICĂNEY POTąBEEĂOKĂPĂRIZONTAL BAR",
  "ČLACK HEXAGONđOCTAGONċELLIPSISċLINE EXTENSIONċMALE WITH STROKE SIGNċONE EIGHTH BLOCK-1358Ĝ2Ĝ3",
  "Ĝ4Ĝ5Ĝ6Ĝ7ċSCAN LINE-1ĕ3ĕ7ĕ9ċTAB KEYĎULATIONĕ SETĖWITH JUSTIFICATIONČRAFFIC LIGHTăSEą FACE",
  "ĆRACINGĂSPITALĂT BEVERAGEĄDOGĄPEPPERĄSPRINGSăELĂURGLASSĉ WITH FLOWING SANDăSEą BUILDINGĎS",
  "ĆWITH GARDENāRYVNIA SIGNāTĂJĂSāUGGING FACEĂNDRED POINTS SYMBOLĂSHED FACEĂTāYGIEAĂPHENĆ BULLET",
  "ćWITH DIAERESISĆ-MINUSĆATION POINTăODIASTOLEĂSTERESIS SYMBOLĀI LOVE YOU HAND SIGNāCE CREAMąUBE",
  "ĄHOCKEY STICK AND PUCKĄSKATEāDENTICAL TOČ AND SLANTED PARALLELĊWITH DOT ABOVEĆFICATION CARD",
  "ăOGRAPHIC ANNOTATION BOTTOM MARKėEARTH MARKėFIRST MARKĘOUR MARKěTH MARKėHEAVEN MARK",
  "ėLINKING MARKėMAN MARKĘIDDLE MARKėONE MARKėREVERSE MARKėSECOND MARKėTHIRD MARKęREE MARK",
  "ĘOP MARKĘWO MARKČCLOSING MARKčOMMAČDEPARTING TONE MARKĎSCRIPTION CHARACTER ABOVE TO BELOW",
  "īMIDDLE AND BELOWĢFULL SURROUNDĢLEFT TO MIDDLE AND RIGHTĪRIGHTĢOVERLAIDĢSURROUND FROM ABOVE",
  "İBELOWİLEFTıOWER LEFTİUPPER LEFTĶRIGHTČENTERING TONE MARKČFULL STOPČHALF FILL SPACE",
  "ČITERATION MARKČLEVEL TONE MARKČNUMBER ZEROČRISING TONE MARKČSPACEČTALLY MARK FIVEĘOURėONE",
  "ėTHREEĘWOčELEGRAPH LINE FEED SEPARATOR SYMBOLĖSYMBOL FOR APRILĢUGUSTġDAY EIGHTĪEENĦLEVEN",
  "ĥFIFTEENħVEĦOURĩTEENĥNINEĩTEENĥONEĥSEVENĪTEENĦIXĨTEENĥTENĦHIRTEENĪYī-ONEħREEĦWELVEĨNTYī-EIGHT",
  "ĬFIVEĭOURĬNINEĬONEĬSEVENĭIXĬTHREEĭWOħOĢECEMBERġFEBRUARYġHOUR EIGHTīEENħLEVENĦFIFTEENĨVEħOUR",
  "ĪTEENĦNINEĪTEENĦONEĦSEVENīTEENħIXĩTEENĦTENħHIRTEENĨREEħWELVEĩNTYĬ-FOURĭONEĭTHREEĮWOĨOĦZERO",
  "ġJANUARYĢULYģNEġMARCHģYġNOVEMBERġOCTOBERġSEPTEMBERČVARIATION INDICATORāMAGE OF",
  "Ĉ OR APPROXIMATELY EQUAL TOĂPăERIAL ARAMAIC LETTER ALEPHęYINĘBETHĘDALETHĘGIMELĘHEĚTHĘKAPH",
  "ĘLAMEDHĘMEMĘNUNĘPEĘQOPHĘRESHĘSADHEĚMEKHęHINĘTAWęETHĘWAWĘYODHĘZAYINđNUMBER ONEě HUNDRED",
  "ĜTHOUSANDĘTENě THOUSANDęHREEęWENTYĚOđSECTION SIGNāNBOX TRAYĂCOMING ENVELOPEąPLETE INFINITY",
  "ăREASE FONT SIZE SYMBOLĈS ASąMENTĂDăEXą POINTING AT THE VIEWERăIAN RUPEE SIGN",
  "ĄC SIYAQ ALTERNATE LAKH MARKČFRACTION ONE HALFęQUARTERĕTHREE QUARTERSČLAKH MARK",
  "ČNUMBER ALTERNATE ONEĝTEN THOUSANDĞWOēEIGHTĘ HUNDREDęTHOUSANDĘYę THOUSANDēFIFTYĘ THOUSANDĕVE",
  "ė HUNDREDĘTHOUSANDĔORTYĘ THOUSANDĕURė HUNDREDĘTHOUSANDēKARORĘANēLAKHėANēNINEė HUNDREDĘTHOUSAND",
  "ėTYę THOUSANDēONEĖ HUNDREDėTHOUSANDēPREFIXED EIGHTĜFIVEĝOURĜNINEĜONEĜSEVENĝIXĜTHREEĝWOēSEVEN",
  "Ę HUNDREDęTHOUSANDĘTYĚ THOUSANDĔIXĖ HUNDREDėTHOUSANDĖTYĘ THOUSANDēTENĖ THOUSANDĔHIRTY",
  "ę THOUSANDĕREEĘ HUNDREDęTHOUSANDĔWENTYę THOUSANDĕOĖ HUNDREDėTHOUSANDČPLACEHOLDERČRUPEE MARK",
  "ĂFINITYĈ NEGATED WITH VERTICAL BARăORMATION DESK PERSONČSEPARATOR FOURĖONEĖTHREEėWOčOURCE",
  "ĂHIBIT ARABIC FORM SHAPINGĈSYMMETRIC SWAPPINGĂPUT SYMBOL FOR LATIN CAPITAL LETTERSėLETTERS",
  "ėSMALL LETTERSđNUMBERSđSYMBOLSĂSCRIPTIONAL PAHLAVI LETTER ALEPHĝBETHĝDALETHĝGIMELĝHEğTHĝKAPH",
  "ĝLAMEDHĝMEM-QOPHĝNUNĝPEĝSADHEğMEKHĞHINĝTAWĞETHĝWAW-AYIN-RESHĝYODHĝZAYINĖNUMBER FOURĝONE",
  "Ġ HUNDREDġTHOUSANDĝTENĞHREEĞWENTYğOĐRTHIAN LETTER ALEPHğYINĞBETHĞDALETHĞGIMELĞHEĠTHĞKAPH",
  "ĞLAMEDHĞMEMĞNUNĞPEĞQOPHĞRESHĞSADHEĠMEKHğHINĞTAWğETHĞWAWĞYODHĞZAYINėNUMBER FOURĞONEġ HUNDRED",
  "ĢTHOUSANDĞTENğHREEğWENTYĠOăERTION SYMBOLĂTEGRALĈ AROUND A POINT OPERATORĊVERAGE WITH SLASH",
  "ĉEXTENSIONĉWITH DOUBLE STROKEĎINTERSECTIONĎLEFTWARDS ARROW WITH HOOKĎOVERBARĎTIMES SIGN",
  "ĎUNDERBARĐIONĄRCALATEąIOR PRODUCTąLINEAR ANNOTATION ANCHORėSEPARATORėTERMINATOR",
  "ĆOCKED FEMALE AND MALE SIGNąROBANGąSECTIONČ ABOVE BAR ABOVE UNIONēUNION",
  "čBESIDE AND JOINED WITH INTERSECTIONčWITH DOTĒLOGICAL ANDĒOVERBARĂVERSE BULLETĈCHECK MARK",
  "čER BOARD FILLĈDOWNWARDS ARROW WITH TIP LEFTWARDSĈMEDIUM SHADEĈWHITE CIRCLE",
  "ąTED EXCLAMATION MARKĉINTERROBANGĉLAZY SĊOW KAVYKAē WITH KAVYKA ABOVEĉOHM SIGNĉPENTAGRAM",
  "ĉQUESTION MARKĉUNDERTIEăISIBLE PLUSĊSEPARATORĊTIMESāZAKAYA LANTERNĀJACK-O-LANTERN",
  "ĂPANESE BANK SYMBOLĉCASTLEĉDOLLSĉGOBLINĉINDUSTRIAL STANDARD SYMBOLĉOGREĉPOST OFFICE",
  "ĉSYMBOL FOR BEGINNERĂRĂVANESE CONSONANT SIGN CAKRAĘKERETĘPENGKALĉDIGIT EIGHTďFIVEĐOURďNINEďONE",
  "ďSEVENĐIXďTHREEĐWOďZEROĉLEFT RERENGGANċTTER AđIĐBAĒ MURDAĐCAĒ MURDAĐDAĒ MAHAPRANAđDA",
  "ē MAHAPRANAĐEĐGAĒ MURDAĐHAĐIđ KAWIđIĐJAĒ MAHAPRANAĐKAĒ MURDAēSASAKĐLAĐMAĐNAĒ MURDAđGAē LELET",
  "ę RASWADIđYAē MURDAĐOĐPAĒ CEREKēMURDAĐRAĒ AGUNGĐSAĒ MAHAPRANAĔURDAĐTAĒ MURDAđTAē MAHAPRANAĐU",
  "ĐWAĐYAĉPADA ADEGĒ ADEGďNDAPĎISEN-ISENĎLINGSAďUHURĐNGSIĎMADYAĎPANGKATďISELEHĎTIRTA TUMETES",
  "ĎWINDUċNGKONčRANGKEPĉRIGHT RERENGGANĉSIGN CECAKē TELUĎLAYARĎPANYANGGAĎWIGNYAN",
  "ĉTURNED PADA PISELEHĉVOWEL SIGN DIRGA MUREĔPEPETĔSUKUĘ MENDUTĔTALINGĖRUNGĕOLONGĔWULUĘ MELIK",
  "āEANSāIGSAW PUZZLE PIECEāOINĂYSTICKāUGGLINGĂNOĂPITERĀKAABAĂITHI ABBREVIATION SIGNćDANDA",
  "ĈOUBLE DANDAĎSECTION MARKćENUMERATION SIGNćLETTER AďAďIďUĎBAďHAĎCAďHAĎDAďDAĐDHAĐHAďHAĎEĎGAďHA",
  "ĎHAĎIďIĎJAďHAĎKAďHAĎLAĎMAĎNAďGAďNAďYAĎOĎPAďHAĎRAďHAĎSAďHAďSAĎTAďHAďTAĐHAĎUďUĎVAĎYAćNUMBER SIGN",
  "Ē ABOVEćSECTION MARKĈIGN ANUSVARAČCANDRABINDUČNUKTAČVIRAMAĎSARGAćVOWEL SIGN AAēIēUĒEĒIēIĒOĒUēU",
  "ĒVOCALIC RĂNGAROOĄXI RADICAL AGAINĐNDĐRRIVEĒOWĐXEďBADGERđMBOOĐEANĐIGđRDđTTERĐLACKđOODđUEĐOAT",
  "đDYđLT OF CLOTHđNEđWĐRANCHđISTLEđUSHďCARTđULDRONđVEĐHILDĐITYĐLANĒWđIFFđOTHESĐOLORđMPAREđRPSE",
  "đVERđWďDEATHđERĐIPPERđSHĒTINGUISHđVINATIONĐO NOTđGđORđTĒTED CLIFFĖTENTđUBLE XđWN BOXĐRAGONđUM",
  "đYďEARĒTHđTĐIGHTĐMBROIDERYĐNCLOSUREđTERĐVENēINGĐYEďFACEđNGđTHERĐEATHERĐIELDđGHTđREđSHĐLUTEđY",
  "ĐOOTĐRAGRANTđOGĐURďGATEĐHOSTĐOđ SLOWLYđLDĐRAINĒSSďHAIRđLBERDĒF TREE TRUNKđNDĐEADĒRTđMP",
  "ĐIDING ENCLOSUREĐOOKđRNĒSEďICEĐNCHđSECTďJADEđRďKNIFEďLACKđMEĐEAFĒTHERđEKđGSĐIDđFEđNEĐONG",
  "ē STRIDEďMANĐEATđLONĐILLETđNISTERĐOONđRNINGĒTARđUNDēTAINĒTHďNETĐOSEđTďOLDĐNEĒSELFĐPEN BOXđPOSE",
  "ďPIGĐLOWĐOWERĐRIVATEđOFOUNDďRAINđPđTĐEDĐICEđGHT OPEN BOXđVERĐOOFĐUNďSACRIFICIAL WINEđLTđY",
  "ĐCHOLARđRIPTĐEALđCONDđEđLFĐHEEPĒLLđOOTĒRT TAILED BIRDĖHREADĐICKNESSđLKĐKINĐLASHĒVEđICEĐMALL",
  "ĐNOUTĐOUNDĐPEARĒECHđIRITđOONđROUTĐQUAREĐTANDđEAMĒPđONEĒPēPINGĐUNĐWEETďTABLEđLLđNNED LEATHERĐEN",
  "ĐIGERđLEĐONGUEđOTHĐRACKđEEđIPODĐURBANĒTLEĐWOĒ HANDSďUSEďVALLEYĐILLAGEďWALKē ENCLOSUREđTER",
  "ĐEAPONđSTĐHEATđITEĐINDĒEĐOMANđRKĐRAPđONGďYELLOWăNADA AI LENGTH MARKĈDIGIT EIGHTĎFIVEďOURĎNINE",
  "ĎONEĎSEVENďIXĎTHREEďWOĎZEROĈLENGTH MARKĊTTER AĐAĐIĐUďBAĐHAďCAĐHAďDAĐDAđHAĐHAďEĐEďFAďGAĐHAďHAďI",
  "ĐIďJAĐHAďKAĐHAďLAĐLAđLAďMAďNAđKAARA POLLUĐGAĐNAĐYAďOĐOďPAĐHAďRAĐRAďSAĐHAĐSAďTAĐHAĐTAđHAďUĐUďVA",
  "ĐOCALIC LĘLėRĘRďYAĈSIGN ANUSVARAĎVAGRAHAčCANDRABINDUčJIHVAMULIYAčNUKTAčSIDDHAM",
  "ĎPACING CANDRABINDUčUPADHMANIYAčVIRAMAďSARGAĈVOWEL SIGN AAĔIĔUēEĔEēIĔIēOĔOēUĔUēVOCALIC LĜLěRĜR",
  "ĂTAKANA DIGRAPH KOTOĉITERATION MARKĉLETTER AđRCHAIC EĘWUĘYEęIĐBAđEđIđOđUĐDAđEđIđOđUĐEĐGAđEđIđO",
  "đUĐHAđEđIđOđUĐIĐKAđEđIđOđUĐMAđEđIĒNNAN NASALIZED TONE-1Ħ2Ħ3Ħ4Ħ5Ħ7Ħ8ėTONE-2Ĝ3Ĝ4Ĝ5Ĝ7Ĝ8đOđUĐNđAđE",
  "đIđOđUĐOĐPAđEđIđOđUĐRAđEđIđOđUĐSAđEđIđMALL AĖEĖHAėEėIėOėUĖIĖKAėEėUĖMUĖNėUĖOĖRAėEėIėOėUĖSIėUĖTO",
  "ėUĖUĖWAėEėIėOĖYAėOėUđOđUĐTAđEđIđOđUĐUĐVAđEđIđOđUĐWAđEđIđOĐYAđOđUĐZAđEđIđOđUĉMIDDLE DOT",
  "ĉVOICED ITERATION MARKĈ-HIRAGANA DOUBLE HYPHENĒPROLONGED SOUND MARKĒSEMI-VOICED SOUND MARK",
  "ĒVOICED SOUND MARKĂYAH LI DIGIT EIGHTďFIVEĐOURďNINEďONEďSEVENĐIXďTHREEĐWOďZEROĉLETTER AĐBAĐCA",
  "ĐDAĐGAĐHAđTAĐIĐKAđHAĐLAĐMAĐNAđGAđYAĐOEđOĐPAđHAĐRAĐSAđHAĐTAđHAĐVAĐWAĐYAĐZAĉSIGN CWIĎSHYA",
  "ĉTONE CALYAē PLOPHUĎPLOPHUĉVOWEL EĐEďOďUĐEāELVIN SIGNĂYăBOARDĈ AND MOUSEăCAP TEN",
  "āHAROSHTHI DIGIT FOURđONEđTHREEĒWOċFRACTION ONE HALFċLETTER AĒBAēHAĒCAēHAĒDAēDAĔHAēHAĒGAēHAĒHA",
  "ĒJAĒKAēHAēKAĒLAĒMAĒNAēNAēYAĒPAēHAĒRAĒSAēHAēSAĒTAēHAēTAĔHAĔTAĕHAĒVAēHAĒYAĒZAċNUMBER ONE HUNDRED",
  "ĖTHOUSANDĒTENēWENTYċPUNCTUATION CIRCLEĘRESCENT BARėDANDAĘOTęUBLE DANDAėLINESĘOTUSėMANGALAM",
  "ėSMALL CIRCLEċSIGN ANUSVARAĐBAR ABOVEĐCAUDAĐDOT BELOWĒUBLE RING BELOWĐVISARGAċVIRAMA",
  "ČOWEL LENGTH MARKđSIGN EĖIĖOĖUĖVOCALIC RĂITAN SMALL SCRIPT CHARACTER-18B00Ģ1Ģ2Ģ3Ģ4Ģ5Ģ6Ģ7Ģ8Ģ9ĢA",
  "ĢBĢCĢDĢEĢFġ10Ģ1Ģ2Ģ3Ģ4Ģ5Ģ6Ģ7Ģ8Ģ9ĢAĢBĢCĢDĢEĢFġ20Ģ1Ģ2Ģ3Ģ4Ģ5Ģ6Ģ7Ģ8Ģ9ĢAĢBĢCĢDĢEĢFġ30Ģ1Ģ2Ģ3Ģ4Ģ5Ģ6Ģ7",
  "Ģ8Ģ9ĢAĢBĢCĢDĢEĢFġ40Ģ1Ģ2Ģ3Ģ4Ģ5Ģ6Ģ7Ģ8Ģ9ĢAĢBĢCĢDĢEĢFġ50Ģ1Ģ2Ģ3Ģ4Ģ5Ģ6Ģ7Ģ8Ģ9ĢAĢBĢCĢDĢEĢFġ60Ģ1Ģ2Ģ3Ģ4",
  "Ģ5Ģ6Ģ7Ģ8Ģ9ĢAĢBĢCĢDĢEĢFġ70Ģ1Ģ2Ģ3Ģ4Ģ5Ģ6Ģ7Ģ8Ģ9ĢAĢBĢCĢDĢEĢFġ80Ģ1Ģ2Ģ3Ģ4Ģ5Ģ6Ģ7Ģ8Ģ9ĢAĢBĢCĢDĢEĢFġ90Ģ1",
  "Ģ2Ģ3Ģ4Ģ5Ģ6Ģ7Ģ8Ģ9ĢAĢBĢCĢDĢEĢFġA0Ģ1Ģ2Ģ3Ģ4Ģ5Ģ6Ģ7Ģ8Ģ9ĢAĢBĢCĢDĢEĢFġB0Ģ1Ģ2Ģ3Ģ4Ģ5Ģ6Ģ7Ģ8Ģ9ĢAĢBĢCĢDĢEĢF",
  "ġC0Ģ1Ģ2Ģ3Ģ4Ģ5Ģ6Ģ7Ģ8Ģ9ĢAĢBĢCĢDĢEĢFġD0Ģ1Ģ2Ģ3Ģ4Ģ5Ģ6Ģ7Ģ8Ģ9ĢAĢBĢCĢDĢEĢFġE0Ģ1Ģ2Ģ3Ģ4Ģ5Ģ6Ģ7Ģ8Ģ9ĢAĢBĢC",
  "ĢDĢEĢFġF0Ģ1Ģ2Ģ3Ģ4Ģ5Ģ6Ģ7Ģ8Ģ9ĢAĢBĢCĢDĢEĢFĠC00Ģ1Ģ2Ģ3Ģ4Ģ5Ģ6Ģ7Ģ8Ģ9ĢAĢBĢCĢDĢEĢFġ10Ģ1Ģ2Ģ3Ģ4Ģ5Ģ6Ģ7Ģ8Ģ9",
  "ĢAĢBĢCĢDĢEĢFġ20Ģ1Ģ2Ģ3Ģ4Ģ5Ģ6Ģ7Ģ8Ģ9ĢAĢBĢCĢDĢEĢFġ30Ģ1Ģ2Ģ3Ģ4Ģ5Ģ6Ģ7Ģ8Ģ9ĢAĢBĢCĢDĢEĢFġ40Ģ1Ģ2Ģ3Ģ4Ģ5Ģ6",
  "Ģ7Ģ8Ģ9ĢAĢBĢCĢDĢEĢFġ50Ģ1Ģ2Ģ3Ģ4Ģ5Ģ6Ģ7Ģ8Ģ9ĢAĢBĢCĢDĢEĢFġ60Ģ1Ģ2Ģ3Ģ4Ģ5Ģ6Ģ7Ģ8Ģ9ĢAĢBĢCĢDĢEĢFġ70Ģ1Ģ2Ģ3",
  "Ģ4Ģ5Ģ6Ģ7Ģ8Ģ9ĢAĢBĢCĢDĢEĢFġ80Ģ1Ģ2Ģ3Ģ4Ģ5Ģ6Ģ7Ģ8Ģ9ĢAĢBĢCĢDĢEĢFġ90Ģ1Ģ2Ģ3Ģ4Ģ5Ģ6Ģ7Ģ8Ģ9ĢAĢBĢCĢDĢEĢFġA0",
  "Ģ1Ģ2Ģ3Ģ4Ģ5Ģ6Ģ7Ģ8Ģ9ĢAĢBĢCĢDĢEĢFġB0Ģ1Ģ2Ģ3Ģ4Ģ5Ģ6Ģ7Ģ8Ģ9ĢAĢBĢCĢDĢEĢFġC0Ģ1Ģ2Ģ3Ģ4Ģ5Ģ6Ģ7Ģ8Ģ9ĢAĢBĢCĢDĢE",
  "ĢFġD0Ģ1Ģ2Ģ3Ģ4Ģ5ĔFILLERĂMER CURRENCY SYMBOL RIELĆDIGIT EIGHTČFIVEčOURČNINEČONEČSEVENčIXČTHREE",
  "čWOČZEROĆINDEPENDENT VOWEL LYĚYĘQAAĚIĚQĚUęEęIĚIęOO TYPE ONEġTWOęUĚKĚUěVĘRYĚYĆLETTER BAčCAĎHAďO",
  "ĎOčDAĎOčHAčKAĎHAďOĎOčLAĎOčMOčNGOĎNOĎOĎYOčPHAďOĎOčQAčROčSAĎHAĎSOčTAĎHAďOĎOĎTHAĐOčVOčYO",
  "ĆSIGN AHSDAČTTHACANČVAKRAHASANYAċBANTOCčRIYOOSANčTHAMASATČEYYALċCAMNUC PII KUUHČOENGċKAKABAT",
  "ČHANČOOMUUTċLEK TOOċMUUSIKATOANċNIKAHITċPHNAEK MUANċREAHMUKČOBATċSAMYOK SANNYAċTOANDAKHIAT",
  "ČRIISAPċVIRIAMċYUUKALEAPINTUćYMBOL BEI KOETđROCĎUON KOETĒROCčDAP KOETđROCĐ-BEI KOETĕROC",
  "ĒUON KOETĖROCđMUOY KOETĖROCđPII KOETĕROCĒRAM KOETĖROCčLEK ATTAK BEIĘUONėMUOYėPIIĘRAMě-BEIĝUON",
  "ĜMUOYĜPIIėSONčMUOY KOETĒROCčPATHAMASATĎII KOETđROCĎRAM KOETĒROCđ-BEI KOETĖROCēUON KOETėROC",
  "ĒMUOY KOETėROCĒPII KOETĖROCčTUTEYASATĆVOWEL INHERENT AAĖQČSIGN AAĒEĒIĒUđEđIĒEĒIđOEĒOđUĒAĒUđYĒA",
  "ĒYĂOJKI ABBREVIATION SIGNćDANDAĈOUBLE DANDAĎSECTION MARKćLETTER AďAďIďUĎBAďBAďHAĎCAďHAĎDAďDA",
  "ĐDAĐHAďHAĎEĎGAďGAďHAĎHAĎIĎJAďJAĎKAďHAĎLAďLAĎMAĎNAďGAďNAďYAĎOĎPAďHAĎRAĎSAĎTAďHAďTAĐHAĎUĎVAĎYA",
  "ćSECTION MARKĈIGN ANUSVARAČNUKTAČSHADDAčUKUNČVIRAMAćVOWEL SIGN AAēIēUĒEĒIēIĒOĒUćWORD SEPARATOR",
  "ĂUDAWADI DIGIT EIGHTĐFIVEđOURĐNINEĐONEĐSEVENđIXĐTHREEđWOĐZEROĊLETTER AĒAĒIĒUđBAĒBAĒHAđCAĒHAđDA",
  "ĒDAēDAēHAĒHAđEđGAĒGAĒHAđHAđIĒIđJAĒHAĒJAđKAĒHAđLAđMAđNAĒGAĒNAĒYAđOđPAĒHAđRAĒRAđSAĒHAđTAĒHAĒTA",
  "ēHAđUĒUđVAđYAĊSIGN ANUSVARAďNUKTAďVIRAMAĊVOWEL SIGN AAĖIĖUĕEĕIĖIĕOĕUĖUāIMONOĂP SIGNĂSSĄ MARK",
  "ĄING CAT FACE WITH CLOSED EYESĈFACEČ WITH CLOSED EYESĒSMILING EYESĂTEĂWIFRUITāNEELING PERSON",
  "ĂOTāOALAĂREAN STANDARD SYMBOLāRONOSĀL B BAR SYMBOLāAB COATăELĂCROSSE STICK AND BALLĂDDER",
  "ăY BEETLEĂNGUAGE TAGĂO CANCELLATION MARKĄDIGIT EIGHTĊFIVEċOURĊNINEĊONEĊSEVENċIXĊTHREEċWOĊZERO",
  "ĄELLIPSISĄHO MOćNOĄKO LAĄLETTER BOċCOċDOċFO FAYďONĎSUNGĎTAMċHO SUNGĎTAMċKHMU GOĐNYOčO SUNGďTAM",
  "ČOċLOč LINGďOOTċMOċNGOČOČYOċOċPALI BHAĐCHAĐDDAĒHAđHAĐGHAĐJHAĐLLAĐNNAđYAĐTTAĒHAČHO SUNGďTAMČO",
  "ċROċSANSKRIT SHAĕSAČO SUNGĎTAMċTHO SUNGďTAMČOċWOċYOĄNIGGAHITAĄSEMIVOWEL SIGN LOēNYO",
  "ąIGN PALI VIRAMAĄTONE MAI CATAWAčEKčTHOĎIĄVOWEL SIGN AĐAĐIĐMĐYďEĐIďIĐIďMAI KANĔONďOďUĐUďYĐY",
  "ĂRGE BLUE CIRCLEċDIAMONDċSQUAREćROWN CIRCLEČSQUAREĆCIRCLEĆDOWN TACKĆGREEN CIRCLEČSQUARE",
  "ĆLEFT TRIANGLE OPERATORĆONE DOT OVER TWO DOTS PUNCTUATIONĊRING OVER TWO RINGS PUNCTUATION",
  "ćRANGE CIRCLEčDIAMONDčSQUAREĆPURPLE CIRCLEčSQUAREĆRED CIRCLEĊSQUARE",
  "ĆTRIPLE VERTICAL BAR OPERATORćWO DOTS OVER ONE DOT PUNCTUATIONĊRINGS OVER ONE RING PUNCTUATION",
  "ĆUP TACKĆYELLOW CIRCLEčSQUAREąR THANċ OR EQUAL TOăI SIGNĂST QUARTER MOONđ SYMBOLĒWITH FACE",
  "ĂTIN CAPITAL LETTER AĖ WITH ACUTEĜBREVEġ AND ACUTEĦDOT BELOWĦGRAVEĦHOOK ABOVEĦTILDEĜCARON",
  "ĝIRCUMFLEXĦ AND ACUTEīDOT BELOWīGRAVEīHOOK ABOVEīTILDEĜDIAERESISĥ AND MACRONĝOT ABOVE",
  "ĥ AND MACRONĠBELOWĞUBLE GRAVEĜGRAVEĜHOOK ABOVEĜINVERTED BREVEĜMACRONĜOGONEKĜRING ABOVE",
  "Ħ AND ACUTEġBELOWĜSTROKEĜTILDEĖAĖEė WITH ACUTEĝMACRONĖFRICAN DĖLPHAĖNGLICANA WĖOĖUĖV",
  "ė WITH HORIZONTAL BARĖYĕBĖ WITH DOT ABOVEĠBELOWĜFLOURISHĜHOOKĜLINE BELOWĜSTROKEĜTOPBARĖETA",
  "ĖROKEN LĕCĖ WITH ACUTEĜBARĜCARONĝEDILLAģ AND ACUTEĝIRCUMFLEXĜDOT ABOVEĜHOOKĜPALATAL HOOK",
  "ĜSTROKEĖHIĖLOSED INSULAR GĖONĖUATRILLOĞ WITH COMMAĕDĖ WITH CARONĝEDILLAĝIRCUMFLEX BELOW",
  "ĜDOT ABOVEĠBELOWĜHOOKĜLINE BELOWĜSHORT STROKE OVERLAYĝMALL LETTER ZĪ WITH CARONĝTROKEĜTOPBARĖZ",
  "ė WITH CARONĕEĖ WITH ACUTEĜBREVEĜCARONĝEDILLAģ AND BREVEĝIRCUMFLEXĦ AND ACUTEīDOT BELOWīGRAVE",
  "īHOOK ABOVEīTILDEħBELOWĜDIAERESISĝOT ABOVEĠBELOWĞUBLE GRAVEĜGRAVEĜHOOK ABOVEĜINVERTED BREVE",
  "ĜMACRONĢ AND ACUTEħGRAVEĜOGONEKĜSTROKEĜTILDEġ BELOWĖGYPTOLOGICAL AINĤLEFĖNGĖSHĖTėHĖZH",
  "Ę REVERSEDęWITH CARONĕFĖ WITH DOT ABOVEĜHOOKĜSTROKEĕGĖ WITH ACUTEĜBREVEĜCARONĝEDILLAĝIRCUMFLEX",
  "ĜDOT ABOVEĜHOOKĜMACRONĜOBLIQUE STROKEĜSTROKEĖAMMAĖHAĖLOTTAL AĝIĝSTOPĝUĕHĖ WITH BREVE BELOW",
  "ĜCARONĝEDILLAĝIRCUMFLEXĜDESCENDERĝIAERESISĝOT ABOVEĠBELOWĜHOOKĜSTROKEĖALF HĖENGĖWAIRĕI",
  "Ė WITH ACUTEĜBREVEĜCARONĝIRCUMFLEXĜDIAERESISĥ AND ACUTEĝOT ABOVEĠBELOWĞUBLE GRAVEĜGRAVE",
  "ĜHOOK ABOVEĜINVERTED BREVEĜMACRONĜOGONEKĜSTROKEĜTILDEġ BELOWĖNSULAR DĝFĝGĝRĝSĝTĖOTAĖSĕJ",
  "Ė WITH CIRCUMFLEXĝROSSED-TAILĜSTROKEĕKĖ WITH ACUTEĜCARONĝEDILLAĜDESCENDERĝIAGONAL STROKE",
  "ĝOT BELOWĜHOOKĜLINE BELOWĜOBLIQUE STROKEĜSTROKEĢ AND DIAGONAL STROKEĕLĖ WITH ACUTEĜBARĝELT",
  "ĜCARONĝEDILLAĝIRCUMFLEX BELOWĜDOT BELOWĥ AND MACRONĞUBLE BARĜHIGH STROKEĜLINE BELOWĜMIDDLE DOT",
  "ģTILDEĜSMALL LETTER JĝTROKEĖJĕMĖ WITH ACUTEĜDOT ABOVEĠBELOWĜHOOKĖIDDLE SCOTS Sě-WELSH LLĢVĕN",
  "Ė WITH ACUTEĜCARONĝEDILLAĝIRCUMFLEX BELOWĜDESCENDERĝOT ABOVEĠBELOWĜGRAVEĜLEFT HOOKĝINE BELOW",
  "ĝONG RIGHT LEGĜOBLIQUE STROKEĜSMALL LETTER JĜTILDEĖJĕOĖ WITH ACUTEĜBREVEĜCARONĝIRCUMFLEX",
  "Ħ AND ACUTEīDOT BELOWīGRAVEīHOOK ABOVEīTILDEĜDIAERESISĥ AND MACRONĝOT ABOVEĥ AND MACRONĠBELOW",
  "ĞUBLE ACUTEģGRAVEĜGRAVEĜHOOK ABOVEĞRNĠ AND ACUTEĥDOT BELOWĥGRAVEĥHOOK ABOVEĥTILDE",
  "ĜINVERTED BREVEĜLONG STROKE OVERLAYĞOPĜMACRONĢ AND ACUTEħGRAVEĝIDDLE TILDEĜOGONEKĢ AND MACRON",
  "ĜSTROKEĢ AND ACUTEĜTILDEġ AND ACUTEĦDIAERESISĦMACRONĖIĖLD POLISH OĖMEGAĖOĖPEN EĚOĖUĕP",
  "Ė WITH ACUTEĜDOT ABOVEĜFLOURISHĜHOOKĜSQUIRREL TAILĝTROKEĢ THROUGH DESCENDERĕQ",
  "Ė WITH DIAGONAL STROKEĜSTROKE THROUGH DESCENDERĕRĖ ROTUNDAėWITH ACUTEĜCARONĝEDILLAĜDOT ABOVE",
  "ĠBELOWĥ AND MACRONĞUBLE GRAVEĜINVERTED BREVEĜLINE BELOWĜOBLIQUE STROKEĜSTROKEĜTAIL",
  "ĖEVERSED C WITH DOTĞEĞHALF HĞOPEN EĖUM ROTUNDAĕSĖ WITH ACUTEġ AND DOT ABOVEĜCARON",
  "ġ AND DOT ABOVEĝEDILLAĝIRCUMFLEXĝOMMA BELOWĜDOT ABOVEĠBELOWĥ AND DOT ABOVEĜHOOKĜOBLIQUE STROKE",
  "ĜSHORT STROKE OVERLAYĝWASH TAILĖALTILLOĖCHWAėRIPT GĖHARP SĖIGMOID SĖMALL CAPITAL I",
  "ěQ WITH HOOK TAILĕTĖ WITH CARONĝEDILLAĝIRCUMFLEX BELOWĝOMMA BELOWĜDIAGONAL STROKEĝOT ABOVE",
  "ĠBELOWĜHOOKĜLINE BELOWĜRETROFLEX HOOKĜSTROKEĖHORNĚ WITH STROKEĦ THROUGH DESCENDERĖONE FIVEĚSIX",
  "ĚTWOĖRESILLOĖURNED AĝLPHAĜHĜINSULAR GĜKĜLĜMĜTĜVĖZĕUĖ BARėWITH ACUTEĜBREVEĜCARONĝIRCUMFLEX",
  "Ħ BELOWĜDIAERESISĥ AND ACUTEĪCARONĪGRAVEĪMACRONĦBELOWĝOT BELOWĞUBLE ACUTEģGRAVEĜGRAVE",
  "ĜHOOK ABOVEĞRNĠ AND ACUTEĥDOT BELOWĥGRAVEĥHOOK ABOVEĥTILDEĜINVERTED BREVEĜMACRON",
  "Ģ AND DIAERESISĜOGONEKĜRING ABOVEĜSTROKEĜTILDEġ AND ACUTEĢBELOWĖPSILONĕVĖ WITH DIAGONAL STROKE",
  "ĝOT BELOWĜHOOKĜTILDEĖENDĖISIGOTHIC ZĖOLAPUK AEĝOEĝUEĖYĕWĖ WITH ACUTEĜCIRCUMFLEXĜDIAERESIS",
  "ĝOT ABOVEĠBELOWĜGRAVEĜHOOKĖYNNĕXĖ WITH DIAERESISĝOT ABOVEĕYĖ WITH ACUTEĜCIRCUMFLEXĜDIAERESIS",
  "ĝOT ABOVEĠBELOWĜGRAVEĜHOOKĠ ABOVEĜLOOPĜMACRONĜSTROKEĜTILDEĖOGHĕZĖ WITH ACUTEĜCARONĝIRCUMFLEX",
  "ĜDESCENDERĝOT ABOVEĠBELOWĜHOOKĜLINE BELOWĜPALATAL HOOKĜSTROKEĝWASH TAILďIGATURE IJėOEćROSS",
  "ĆEPIGRAPHIC LETTER ARCHAIC MĘI LONGAęNVERTED MĘREVERSED FġPĘSIDEWAYS IĆLETTER AIN",
  "ĎLVEOLAR CLICKčBIDENTAL PERCUSSIVEďLABIAL CLICKĖPERCUSSIVEčDENTAL CLICKčGLOTTAL STOP",
  "ę WITH STROKEčINVERTED GLOTTAL STOPĢ WITH CURLĨSTROKEčLATERAL CLICK",
  "čPHARYNGEAL VOICED FRICATIVEčRETROFLEX CLICKĜ WITH RETROFLEX HOOKďVERSED ESH LOOP",
  "ĖGLOTTAL STOP WITH STROKEčSINOLOGICAL DOTĎMALL CAPITAL AĜEěBĜARRED BěCěDěEĜTHĜZHěFěG",
  "Ĝ WITH HOOKěHěIĜNVERTED RěJěKěLĜ WITH BELTĢSTROKEěMěNěOĜEĜPEN OĜUěPěQěRĜ WITH RIGHT LEG",
  "ĜEVERSED NĤRĜUMěSěTĜURNED EĢGĢKĢMĢRěUěVěWěYěZĎTRETCHED CĘ WITH CURLčTWO WITH STROKE",
  "čVOICED LARYNGEAL SPIRANTčWYNNčYRĆSMALL CAPITAL LETTER I WITH STROKEěU WITH STROKEČLETTER A",
  "Ĕ REVERSED-SCHWAĕWITH ACUTEĚBREVEğ AND ACUTEĤDOT BELOWĤGRAVEĤHOOK ABOVEĤTILDEĚCARONěIRCUMFLEX",
  "Ĥ AND ACUTEĩDOT BELOWĩGRAVEĩHOOK ABOVEĩTILDEĚDIAERESISģ AND MACRONěOT ABOVEģ AND MACRONĞBELOW",
  "ĜUBLE GRAVEĚGRAVEĚHOOK ABOVEĚINVERTED BREVEĚMACRONĚOGONEKĚRETROFLEX HOOKěIGHT HALF RING",
  "ĜNG ABOVEĤ AND ACUTEğBELOWĚSTROKEĚTILDEĔAĔEĕ WITH ACUTEěMACRONĔLPHAĘ WITH RETROFLEX HOOK",
  "ĔNGLICANA WĔOĔUĔVĕ WITH HORIZONTAL BARĔYēBĔ WITH DOT ABOVEĞBELOWĚFLOURISHĚHOOKĚLINE BELOW",
  "ĚMIDDLE TILDEĚPALATAL HOOKĚSTROKEĚTOPBARĔARRED ALPHAĚEĚOĕSELINE ESHĔETAĔLACKLETTER EğO",
  "Ġ WITH STROKEĔOTTOM HALF OĔROKEN LēCĔ WITH ACUTEĚBARĚCARONěEDILLAġ AND ACUTEěIRCUMFLEXěURL",
  "ĚDOT ABOVEĚHOOKĚPALATAL HOOKĚRETROFLEX HOOKĚSTROKEĔHIĖ WITH LOW LEFT SERIFĠRIGHT RING",
  "ĔLOSED INSULAR GĚOMEGAěPEN EĚREVERSED OPEN EĔONĔUATRILLOĜ WITH COMMAēDĔ WITH CARONěEDILLA",
  "ěIRCUMFLEX BELOWěURLĚDOT ABOVEĞBELOWĚHOOKĞ AND TAILĚLINE BELOWĚMIDDLE TILDEĚPALATAL HOOK",
  "ĚSHORT STROKE OVERLAYěTROKEĚTAILěOPBARĔB DIGRAPHĔELTAĕZH DIGRAPHğ WITH PALATAL HOOK",
  "ĥRETROFLEX HOOKĔOTLESS IěJĜ WITH STROKEĨ AND HOOKĕUBLE Rě WITH CROSSED-TAILĚTHORNĚWYNNĔUMĔZ",
  "ĕ DIGRAPHĝ WITH CURLģRETROFLEX HOOKĖWITH CARONēEĔ WITH ACUTEĚBREVEĚCARONěEDILLAġ AND BREVE",
  "ěIRCUMFLEXĤ AND ACUTEĩDOT BELOWĩGRAVEĩHOOK ABOVEĩTILDEĥBELOWĚDIAERESISěOT ABOVEĞBELOW",
  "ĜUBLE GRAVEĚFLOURISHĚGRAVEĚHOOK ABOVEĚINVERTED BREVEĚMACRONĠ AND ACUTEĥGRAVEĚNOTCHĚOGONEK",
  "ĚRETROFLEX HOOKĚSTROKEĚTILDEğ BELOWĔGYPTOLOGICAL AINĢLEFĔNGĖ WITH CROSSED-TAILĜPALATAL HOOKĔSH",
  "Ė WITH CURLĜDOUBLE BARĦ AND CURLĜPALATAL HOOKĜRETROFLEX HOOKĔTĕHĔZHĖ REVERSEDėWITH CARONĝURL",
  "ĜPALATAL HOOKĜRETROFLEX HOOKĜTAILēFĔ WITH DOT ABOVEĚHOOKĚMIDDLE TILDEĚPALATAL HOOKĚSTROKE",
  "ĔENG DIGRAPHğ WITH TRILLēGĔ WITH ACUTEĚBREVEĚCARONěEDILLAěIRCUMFLEXĚDOT ABOVEĚHOOKĚMACRON",
  "ĚOBLIQUE STROKEĚPALATAL HOOKĚSTROKEĔAMMAĔHAĔLOTTAL AěIěSTOPěUēHĔ WITH BREVE BELOWĚCARONěEDILLA",
  "ěIRCUMFLEXĚDESCENDERěIAERESISěOT ABOVEĞBELOWĚHOOKĚLINE BELOWĚPALATAL HOOKĚSTROKEĔALF HĔENG",
  "ė WITH HOOKĔVēIĔ WITH ACUTEĚBREVEĚCARONěIRCUMFLEXĚDIAERESISģ AND ACUTEěOT BELOWĜUBLE GRAVE",
  "ĚGRAVEĚHOOK ABOVEĚINVERTED BREVEĚMACRONĚOGONEKĚRETROFLEX HOOKĚSTROKEĠ AND RETROFLEX HOOKĚTILDE",
  "ğ BELOWĔNSULAR DěFěGěRěSěTĕVERTED ALPHAĜOEĔOTAė WITH STROKEĖIFIED EĔSēJĔ WITH CARONěIRCUMFLEX",
  "ěROSSED-TAILĚSTROKEēKĔ WITH ACUTEĚCARONěEDILLAĚDESCENDERěIAGONAL STROKEěOT BELOWĚHOOK",
  "ĚLINE BELOWĚOBLIQUE STROKEĚPALATAL HOOKĚSTROKEĠ AND DIAGONAL STROKEĔRAēLĔ WITH ACUTEĚBARěELT",
  "Ğ AND PALATAL HOOKĚCARONěEDILLAěIRCUMFLEX BELOWěURLĚDOT BELOWģ AND MACRONĜUBLE BAR",
  "ġMIDDLE TILDEĚFISHHOOKĚHIGH STROKEĚINVERTED LAZY SĚLINE BELOWĚMIDDLE DOTġRINGġTILDE",
  "ĚPALATAL HOOKĚRETROFLEX HOOKĨ AND BELTĚSTROKEĔAMBDA WITH STROKEĔENIS FĕZHė WITH RETROFLEX HOOK",
  "ĔJĔONG Sę WITH DIAGONAL STROKEĠOT ABOVEğHIGH STROKEĔS DIGRAPHĔUMĔZ DIGRAPHēMĔ WITH ACUTE",
  "ĚCROSSED-TAILĚDOT ABOVEĞBELOWĚHOOKĚMIDDLE TILDEĚPALATAL HOOKĔIDDLE SCOTS Sę-WELSH LLĠVĔUMēN",
  "Ĕ PRECEDED BY APOSTROPHEĕWITH ACUTEĚCARONěEDILLAěIRCUMFLEX BELOWěROSSED-TAILěURLĚDESCENDER",
  "ěOT ABOVEĞBELOWĚGRAVEĚLEFT HOOKěINE BELOWěONG RIGHT LEGĚMIDDLE TILDEĚOBLIQUE STROKE",
  "ĚPALATAL HOOKĚRETROFLEX HOOKĚTILDEĔJĔUMēOĔ WITH ACUTEĚBREVEĚCARONěIRCUMFLEXĤ AND ACUTE",
  "ĩDOT BELOWĩGRAVEĩHOOK ABOVEĩTILDEĚDIAERESISģ AND MACRONěOT ABOVEģ AND MACRONĞBELOWĜUBLE ACUTE",
  "ġGRAVEĚGRAVEĚHOOK ABOVEĜRNĞ AND ACUTEģDOT BELOWģGRAVEģHOOK ABOVEģTILDEĚINVERTED BREVE",
  "ĚLONG STROKE OVERLAYĜOPĜW RING INSIDEĚMACRONĠ AND ACUTEĥGRAVEĚOGONEKĠ AND MACRON",
  "ĚRETROFLEX HOOKĚSTROKEĠ AND ACUTEĚTILDEğ AND ACUTEĤDIAERESISĤMACRONĔIĔLD POLISH OĔMEGAĔOĔPEN E",
  "ę WITH RETROFLEX HOOKĘOę WITH RETROFLEX HOOKğSTROKEęEĔUēPĔ WITH ACUTEĚDOT ABOVEĚFLOURISHĚHOOK",
  "ĚMIDDLE TILDEĚPALATAL HOOKĚSQUIRREL TAILěTROKEĠ THROUGH DESCENDERĔHIēQĔ WITH DIAGONAL STROKE",
  "ĚHOOKĞ TAILĚSTROKE THROUGH DESCENDERĔP DIGRAPHēRĔ ROTUNDAĕWITH ACUTEĚCARONěEDILLAěROSSED-TAIL",
  "ĚDOT ABOVEĞBELOWģ AND MACRONĜUBLE GRAVEĚFISHHOOKĢ AND MIDDLE TILDEħPALATAL HOOKĚINVERTED BREVE",
  "ĚLINE BELOWěONG LEGĚMIDDLE TILDEĚOBLIQUE STROKEĚPALATAL HOOKĚSTROKEĚTAILęOUT HANDLEĔAMS HORN",
  "ĔEVERSED Cĝ WITH DOTĜEĝNGĜHALF HĜKĜOPEN EĢ WITH HOOKĨRETROFLEX HOOKĜR WITH FISHHOOKĜSCRIPT G",
  "ĔUMĖ ROTUNDAēSĔ WITH ACUTEğ AND DOT ABOVEĚCARONğ AND DOT ABOVEěEDILLAěIRCUMFLEXěOMMA BELOWěURL",
  "ĚDOT ABOVEĞBELOWģ AND DOT ABOVEĚHOOKĚMIDDLE TILDEĚOBLIQUE STROKEĚPALATAL HOOK",
  "ĚSHORT STROKE OVERLAYěWASH TAILĔAKHA YATĕLTILLOĔCHWAĘ WITH HOOKĞRETROFLEX HOOKĕRIPT G",
  "ě WITH CROSSED-TAILĚRě WITH RINGĔHARP SĔIDEWAYS DIAERESIZED UĜOĝ WITH STROKEĝPEN OĜTURNED MĜU",
  "ĕGMOID SĔQUAT REVERSED ESHĔTIRRUP RēTĔ WITH CARONěEDILLAěIRCUMFLEX BELOWěOMMA BELOWěURL",
  "ĚDIAERESISĝGONAL STROKEěOT ABOVEĞBELOWĚHOOKĞ AND RETROFLEX HOOKĚLINE BELOWĚMIDDLE TILDE",
  "ĚPALATAL HOOKĚRETROFLEX HOOKĚSTROKEĔAILLESS PHIĔC DIGRAPH WITH CURLĔESH DIGRAPH",
  "ğ WITH PALATAL HOOKĥRETROFLEX HOOKĔH WITH STRIKETHROUGHĕORNĘ WITH STROKEĤ THROUGH DESCENDER",
  "ĔONE FIVEĘSIXĘTWOĕP HALF OĔRESILLOĔS DIGRAPHĝ WITH RETROFLEX HOOKĔUMĕRNED AěEěLPHAĚDELTAĚEĚGĚH",
  "ě WITH FISHHOOKĩ AND TAILĚIěNSULAR GĚKĚLĚMě WITH LONG LEGĚO OPEN-OĢ WITH STROKEěE",
  "Ĝ WITH HORIZONTAL STROKEĢSTROKEěPEN EĚRě WITH HOOKġLONG LEGĩ AND RETROFLEX HOOKġMIDDLE TILDE",
  "ġPALATAL HOOKġTAILĚTě WITH CURLĚUIĚVĚWĚYě WITH BELTĔZēUĔ BARĘ WITH SHORT RIGHT LEGĕWITH ACUTE",
  "ĚBREVEĚCARONěIRCUMFLEXĤ BELOWĚDIAERESISģ AND ACUTEĨCARONĨGRAVEĨMACRONĤBELOWěOT BELOW",
  "ĜUBLE ACUTEġGRAVEĚGRAVEĚHOOK ABOVEĜRNĞ AND ACUTEģDOT BELOWģGRAVEģHOOK ABOVEģTILDE",
  "ĚINVERTED BREVEĚLEFT HOOKĚMACRONĠ AND DIAERESISĚOGONEKĚRETROFLEX HOOKěING ABOVE",
  "ĚSHORT RIGHT LEGěTROKEĚTILDEğ AND ACUTEĠBELOWĔEĔIĔMĔOĔPSILONĚ WITH STROKEēVĔ WITH CURL",
  "ĚDIAGONAL STROKEěOT BELOWĚHOOKĚPALATAL HOOKĚRIGHT HOOKĚTILDEĔENDĔISIGOTHIC ZĔOLAPUK AEěOEěUEĔY",
  "ēWĔ WITH ACUTEĚCIRCUMFLEXĚDIAERESISěOT ABOVEĞBELOWĚGRAVEĚHOOKĚRING ABOVEēXĔ WITH DIAERESIS",
  "ěOT ABOVEĚLONG LEFT LEGħ AND LOW RIGHT RINGĨWITH SERIFĜW RIGHT RINGĚPALATAL HOOKēYĔ WITH ACUTE",
  "ĚCIRCUMFLEXĚDIAERESISěOT ABOVEĞBELOWĚGRAVEĚHOOKĞ ABOVEĚLOOPĚMACRONĚRING ABOVEĚSHORT RIGHT LEG",
  "ěTROKEĚTILDEĔOGHēZĔ WITH ACUTEĚCARONěIRCUMFLEXěURLĚDESCENDERěOT ABOVEĞBELOWĚHOOKĚLINE BELOW",
  "ĚMIDDLE TILDEĚPALATAL HOOKĚRETROFLEX HOOKĚSTROKEěWASH TAILčIGATURE FFėIėLĖIĖLĕIJĕLONG S TĕOE",
  "ĕSTćUBSCRIPT SMALL LETTER AĝEĝHĝIĝJĝKĝLĝMĝNĝOĝPĝRĝSĞCHWAĝTĝUĝVĝXāEAF FLUTTERING IN WIND",
  "ĄY GREENĂDGERĂFT AND LOWER AND RIGHT TRIANGULAR THREE QUARTERS BLOCKďONE EIGHTH BLOCK",
  "ĉRIGHT DOUBLE TURNSTILEďTACKĐRIANGULAR HALF BLOCK",
  "ĉUPPER AND RIGHT TRIANGULAR THREE QUARTERS BLOCKďONE EIGHTH BLOCKćGER BUBBLEĈLE BRACKET",
  "Ē WITH DOTĆRC LESS-THAN BRACKETćROW WITH CIRCLED PLUSĐSMALL CIRCLE",
  "ąBARB DOWN RIGHT BARB DOWN HARPOONĚUP HARPOONĊUP RIGHT BARB DOWN HARPOONĘUP HARPOON",
  "ĆLACK LENTICULAR BRACKETċTORTOISE SHELL BRACKETąCEILINGĆLOSED ENTRYĆORNER BRACKETĆURLY BRACKET",
  "Ē LOWER HOOKēMIDDLE PIECEēUPPER HOOKąDOTTED SUBSTITUTION BRACKETćUBLE ANGLE BRACKET",
  "ČPARENTHESISČQUOTATION MARKČWIGGLY FENCEąFISH TAILćVE EIGHTHS BLOCKĆLOORąHALF BLACK CIRCLE",
  "ĐSTARČOCKĊCIRCLEĐ WITH DOTĖFOUR DOTSĖTHREE DOTSėWO DOTSĊFOLDER",
  "ĊINVERSE MEDIUM SHADE AND RIGHT HALF BLOCKĊMEDIUM SHADEĊRUNNING MANćND TELEPHONE RECEIVER",
  "ąLOW PARAPHRASE BRACKETĆUGGAGEąMULTIMAPąNORMAL FACTOR SEMIDIRECT PRODUCTąONE EIGHTH BLOCK",
  "ĉQUARTER BLOCKĆUTER JOINąPARENTHESISĐ EXTENSIONđLOWER HOOKđUPPER HOOKąRAISED OMISSION BRACKET",
  "ĆIGHT ARROWĐ THROUGH SMALL CIRCLEđWITH DOUBLE VERTICAL STROKEĖSTROKEĖVERTICAL STROKE",
  "ċBLACK ARROWċDOUBLE ARROWė WITH STROKEĝVERTICAL STROKEċOPEN-HEADED ARROWċSANS-SERIF ARROW",
  "ċTRIANGLE-HEADED ARROWċWAVE ARROWČHITE ARROWąS-SHAPED BAG DELIMITERĆEMIDIRECT PRODUCT",
  "ćVEN EIGHTHS BLOCKĆIDEWAYS U BRACKETćNGLE QUOTATION MARKĆPEECH BUBBLEĆQUARE BRACKETē EXTENSION",
  "ĔLOWER CORNERĔUPPER CORNERĔWITH DOUBLE STROKEęQUILLęSTROKEęTICK IN BOTTOM CORNERġTOP CORNER",
  "ęUNDERBARĆUBSTITUTION BRACKETąTACKĆHIRD WHITE RIGHT POINTING INDEXćOUGHT BUBBLE",
  "ćREE EIGHTHS BLOCKċQUARTERS BLOCKĆORTOISE SHELL BRACKETĆRANSPOSITION BRACKET",
  "ćIANGLE BESIDE VERTICAL BARċULAR ONE QUARTER BLOCKąVERTICAL BAR WITH QUILLďOX LINE",
  "ąWHITE CORNER BRACKETČURLY BRACKETċLENTICULAR BRACKETċPARENTHESISċSQUARE BRACKET",
  "ċTORTOISE SHELL BRACKETĆIGGLY FENCEĆRITING HANDĄ-FACING ARMENIAN ETERNITY SIGNČFIST",
  "ČSVASTI SIGNė WITH DOTSąHANDED INTERLACED PENTAGRAMąPOINTING ANGLE BRACKET",
  "ĎCURVED ANGLE BRACKETĎDOUBLE ANGLE QUOTATION MARKĎMAGNIFYING GLASS",
  "ąSHADED WHITE RIGHTWARDS ARROWĆIDE ARC ANTICLOCKWISE ARROWąTO-RIGHT EMBEDDINGĎISOLATEĎMARK",
  "ĎOVERRIDEĄWARDS ARROWď ABOVE ALMOST EQUAL TOĖREVERSE ALMOST EQUAL TOĞTILDE OPERATOR",
  "ĖSHORT RIGHTWARDS ARROWĖTILDE OPERATORđND UPPER AND LOWER ONE EIGHTH BLOCKĐFROM BAR",
  "Ę TO BLACK DIAMONDĐOVER RIGHTWARDS ARROWĐTHROUGH LESS-THANĘSUBSETĘXđO BAR",
  "Ė OVER RIGHTWARDS ARROW TO BARĔLACK DIAMONDĐWITH DOTTED STEMėUBLE VERTICAL STROKE",
  "ĕEQUILATERAL ARROWHEADĕHOOKĕLARGE TRIANGLE ARROWHEADĖOOPĕMEDIUM TRIANGLE ARROWHEAD",
  "ĕNOTCHED TAILĕPLUS BELOWĕSMALL EQUILATERAL ARROWHEADěTRIANGLE ARROWHEADĖTROKEĕTAIL",
  "ę WITH DOUBLE VERTICAL STROKEğVERTICAL STROKEĖIP DOWNWARDSęUPWARDSĕVERTICAL STROKEď-TAIL",
  "ĊBACK-TILTED SHADOWED WHITE ARROWċLACK ARROWĐCIRCLED WHITE ARROWċOTTOM-SHADED WHITE ARROW",
  "ĊCOMPRESSED ARROWĊDASHED ARROWċOUBLE ARROWĖ FROM BARėWITH STROKEĜVERTICAL STROKEĖ-TAIL",
  "đDASH ARROWĊFINGER-POST ARROWċRONT-TILTED SHADOWED WHITE ARROWĊHAND",
  "ČRPOON OVER RIGHTWARDS HARPOONĒWITH BARB DOWN ABOVE RIGHTWARDS HARPOON WITH BARB DOWN",
  "ġBELOW LONG DASHġFROM BARġTO BARĠWARDSĜUP ABOVE LEFTWARDS HARPOON WITH BARB DOWNĦONG DASH",
  "ĥRIGHTWARDS HARPOON WITH BARB UPğFROM BARğTO BARĞWARDSċEAVY ARROWĐCOMPRESSED ARROW",
  "ĊLEFT-SHADED WHITE ARROWĊOPEN-HEADED ARROWĊPAIRED ARROWSĊQUADRUPLE ARROW",
  "ĊRIGHT-SHADED WHITE ARROWċOCKETĊSANS-SERIF ARROWċQUARED ARROWčIGGLE ARROW",
  "ĊTOP SHADED WHITE ARROWċRIANGLE ARROWHEADĒ-HEADED ARROWğ OVER RIGHTWARDS TRIANGLE-HEADED ARROW",
  "ĠTO BARĠWITH BOLD SHAFTĥDOUBLE HORIZONTAL STROKEĬVERTICAL STROKEĥHEAVY SHAFT",
  "ĥLONG TIP DOWNWARDSĮUPWARDSĥMEDIUM SHAFTĥNARROW SHAFTĥVERY HEAVY SHAFTĚDASHED ARROW",
  "ĚPAIRED ARROWSčPLE ARROWđDASH ARROWċWO HEADED ARROWč-HEADED ARROW FROM BAR",
  "ěWITH DOUBLE VERTICAL STROKEĠTAILĤ WITH DOUBLE VERTICAL STROKEĪVERTICAL STROKE",
  "ġRIANGLE ARROWHEADSĠVERTICAL STROKEĕTRIPLE DASH ARROWĊWAVE ARROWċHITE ARROW",
  "ĕ WITHIN TRIANGLE ARROWHEADĂGĂMONĂOăPARDĂPCHA CONSONANT SIGN KėANGĖLĖMĖNėYIN-DOĖPĖRĖT",
  "ćDIGIT EIGHTčFIVEĎOURčNINEčONEčSEVENĎIXčTHREEĎWOčZEROćLETTER AĎBAďLAĎCAďHAĎDAďDAďZAĎFAďLAĎGA",
  "ďLAĎHAďLAĎJAĎKAďHAďLAĎLAĎMAďLAĎNAďGAďYAĎPAďHAďLAĎRAĎSAďHAĎTAďHAďSAĐHAďTAĐHAĎVAĎWAĎYA",
  "ćPUNCTUATION CER-WAēNYET THYOOM TA-ROLēTA-ROLĔSHOOKę CER-WAćSIGN NUKTAČRANĈUBJOINED LETTER RA",
  "ĘYAćVOWEL SIGN AAĒEĒIĒOēOĒUēUĂSS-THAN ABOVE DOUBLE-LINE EQUAL ABOVE GREATER-THAN",
  "ĐGREATER-THAN ABOVE DOUBLE-LINE EQUALĐLEFTWARDS ARROWĐSIMILAR ABOVE GREATER-THANĘOR EQUAL",
  "đLANTED EQUAL ABOVE GREATER-THAN ABOVE SLANTED EQUALċND NOT APPROXIMATE",
  "ĎSINGLE-LINE NOT EQUAL TOĊBUT NOT EQUAL TOĕIVALENT TOĊCLOSED BY CURVEę ABOVE SLANTED EQUAL",
  "ĊEQUAL TO OR GREATER-THANĊOR APPROXIMATEčEQUAL TOĐIVALENT TOčGREATER-THANčSLANTED EQUAL TO",
  "ĝ WITH DOT ABOVEĬ RIGHTħINSIDEċVER EQUAL TOĊSIGNĊWITH CIRCLE INSIDEďDOTďQUESTION MARK ABOVE",
  "ĂVEL SLIDERāFāIBRAĂGATURE OPEN ET ORNAMENTăHT CHECK MARKĆEIGHT SPOKED ASTERISK",
  "ĆFIVE POINTED BLACK STARċSPOKED ASTERISKćOUR POINTED BLACK CUSPęSTARĆGREEK CROSS",
  "ĆLEFT TORTOISE SHELL BRACKET ORNAMENTĆRAILćIGHT TORTOISE SHELL BRACKET ORNAMENTĆSALTIREćHADE",
  "ćIX SPOKED ASTERISKĆTHREE POINTED BLACK STARćWELVE POINTED BLACK STARĆVERTICAL BAR",
  "ĆWHITE SQUAREąNINGĉ MOODĎ BUBBLEĂMBU DIGIT EIGHTČFIVEčOURČNINEČONEČSEVENčIXČTHREEčWOČZERO",
  "ĆEXCLAMATION MARKĆLETTER BAĎHAčCAĎHAčDAĎHAčGAĎHAĎYANčHAčJAĎHAčKAĎHAčLAčMAčNAĎGAčPAĎHAčRAčSAĎHA",
  "ĎSAčTAĎHAĎRAčWAčYAďNĆQUESTION MARKĆSIGN KEMPHRENGċLOOċMUKPHRENGċSA-IćMALL LETTER ANUSVARAēKA",
  "ēLAēMAēNAĔGAēPAēRAēTAćUBJOINED LETTER RAėWAėYAĆVOWEL SIGN AĒIĒUđEĒEđIđOĒOđUċ-CARRIER LETTER",
  "ăITED LIABILITY SIGNĂNE FEEDąINTEGRATION NOT INCLUDING THE POLE",
  "đWITH RECTANGULAR PATH AROUND POLEĖSEMICIRCULAR PATH AROUND POLEąSEPARATORąTABULATIONď SET",
  "ĄAR A SIGN A028Bď100-102Đ20BĐ31Cď301đ2đ3đ4đ5đ6đ7đ8đ9AĒBĒCĐ10đ1đ2đ3AĒBĒCđ4đ5đ6đ7đ8đ9Đ20đ1đ2đ3đ4",
  "đ5đ6đ7đ8đ9Đ30đ1đ2đ3đ4đ5đ6đ7đ8đ9Đ40đ1đ2đ3đ4đ5đ6đ7đ8đ9Đ50đ1đ2đ3đ4đ5đ6đ7đ8đ9Đ60đ1đ2đ3đ4đ5đ6đ7đ8đ9",
  "Đ70đ1ď400-VASđ1-VASđ2-VASđ3-VASđ4-VASđ5-VASđ6-VASđ7-VASđ8-VASđ9-VASĐ10-VASđ1-VASđ2-VASđ3-VAS",
  "đ4-VASđ5-VASđ6-VASđ7-VASđ8-VASď501đ2đ3đ4đ5đ6đ8đ9Đ10đ1đ2đ3đ5đ6Đ20đ1đ3đ4đ5đ6đ7đ8đ9Đ30đ1đ2đ4đ5đ6",
  "đ7đ8đ9Đ40đ1đ2đ5đ7đ8đ9Đ50đ1đ2đ3đ4đ5đ6đ7đ9Đ63đ4đ5đ6đ8đ9Đ70đ1đ2đ3đ4đ5đ6đ7đ8đ9Đ80đ1đ2đ3đ4đ5đ6đ7đ8",
  "đ9Đ91đ2đ4đ5đ6đ8ď600đ1đ2đ3đ4đ6đ8đ9Đ10đ1đ2đ3đ4đ5đ6đ7đ8đ9Đ20đ1đ2đ3đ4đ6đ7đ8đ9Đ34đ7đ8Đ40đ2đ3đ4đ5đ6",
  "đ8đ9Đ51đ2đ3đ4đ5đ6đ7đ8đ9Đ60đ1đ2đ3đ4ď701 Ađ2 Bđ3 Dđ4 Eđ5 Fđ6 Hđ7 Jđ8 Kđ9 LĒ-2 L2ē3 L3ē4 L4ē6 L6",
  "Đ10 Wđ1 Xđ2 Yđ3 OMEGAđ4 ABBđ5 BBđ7 DDĐ26 EYYYĐ32 JEď800đ1đ2đ3đ4đ5đ6đ7ďB001Ē2Ē3Ē4Ē5Ē6Ē7Ē8Ē9đ10",
  "Ē1Ē3Ē6Ē7đ20Ē1ēFēMĒ2ēFēMĒ3ēMĒ4Ē6Ē7Ē8Ē9đ30Ē1Ē4Ē7Ē8Ē9đ40Ē1Ē4Ē5Ē6Ē7Ē8Ē9đ50Ē1Ē3Ē4Ē5Ē6Ē7Ē8Ē9đ60Ē1Ē5",
  "Ē6Ē7Ē9đ70Ē3Ē4Ē6Ē7Ē8Ē9đ80Ē1Ē2Ē5Ē6Ē7Đ118đ20Ē2Ē3đ31AēBđ64đ71đ80Ē8đ91ćB IDEOGRAM B100 MANĕ2 WOMAN",
  "ĕ4 DEERĕ5 EQUIDĖF MAREĖM STALLIONĕ6F EWEĖM RAMĕ7F SHE-GOATĖM HE-GOATĕ8F SOWĖM BOARĕ9F COW",
  "ĖM BULLĔ20 WHEATĕ1 BARLEYĕ2 OLIVEĕ3 SPICEĕ5 CYPERUSĔ30 OILĕ1 WINEĕ2Ĕ40 BRONZEĕ1 GOLDĕ2ĕ5 WOOL",
  "ĕ6Ĕ50ĕ1 HORNĕ2ĕ3ĕ4ĕ7ĕ8ĕ9 CLOTHĔ60ĕ1ĕ2 GARMENTĕ3 ARMOURĕ4ĕ5ĕ6ĕ7ĕ8ĕ9Ĕ70ĕ1ĕ2ĕ3 MONTHĕ4ĕ6 TREEĕ7ĕ8",
  "ĕ9Ĕ80ĕ1ĕ2ĕ3ĕ4ĕ5ĕ9Ĕ90ĕ1 HELMETē220 FOOTSTOOLĕ5 BATHTUBĔ30 SPEARĕ1 ARROWĕ2ĕ3 SWORDĕ4ĕ6",
  "Ĕ40 WHEELED CHARIOTĕ1 CHARIOTĕ2 CHARIOT FRAMEĕ3 WHEELĕ5ĕ6ĕ8ĕ9Ĕ51ĕ2ĕ3ĕ4 DARTĕ5ĕ6ĕ7ĕ8ĕ9",
  "ĒVESSEL B155Ě200Ĝ1Ĝ2Ĝ3Ĝ4Ĝ5Ĝ6Ĝ7Ĝ8Ĝ9ě10Ĝ1Ĝ2Ĝ3Ĝ4Ĝ5Ĝ6Ĝ7Ĝ8Ĝ9ě21Ĝ2Ĝ6Ĝ7Ĝ8Ĝ9ě50Ě305ĉMONOGRAM B127 KAPO",
  "ĕ8 KANAKOĔ33 AREPAĕ5 MERIĔ56 TURO2ē247 DIPTEĉSYLLABLE B001 DAĕ2 ROĕ3 PAĕ4 TEĕ5 TOĕ6 NAĕ7 DI",
  "ĕ8 Aĕ9 SEĔ10 Uĕ1 POĕ2 SOĕ3 MEĕ4 DOĕ5 MOĕ6 QAĕ7 ZAĔ20 ZOĕ1 QIĕ3 MUĕ4 NEĕ5 A2ĕ6 RUĕ7 REĕ8 I",
  "ĕ9 PU2Ĕ30 NIĕ1 SAĕ2 QOĕ3 RA3ĕ6 JOĕ7 TIĕ8 Eĕ9 PIĔ40 WIĕ1 SIĕ2 WOĕ3 A3ĕ4 KEĕ5 DEĕ6 JEĕ8 NWA",
  "Ĕ50 PUĕ1 DUĕ2 NOĕ3 RIĕ4 WAĕ5 NUĕ7 JAĕ8 SUĕ9 TAĔ60 RAĕ1 Oĕ2 PTEĕ5 JUĕ6 TA2ĕ7 KIĕ8 RO2ĕ9 TU",
  "Ĕ70 KOĕ1 DWEĕ2 PEĕ3 MIĕ4 ZEĕ5 WEĕ6 RA2ĕ7 KAĕ8 QEĔ80 MAĕ1 KUĕ5 AUĕ7 TWEĔ90 DWOĕ1 TWOċMBOL B018",
  "ē9Ē22Ē34Ē47ē9Ē56Ē63ē4Ē79Ē82ē3ē6ē9ăK SYMBOLĄED PAPERCLIPSĂON FACEĂPSĄTICKĂRA SIGNĂSU LETTER AčE",
  "ČBAČCAčHAČDAčZAČEčUČFAČGAčHAČHAčHAČIČJAČKAčHAČLAČMAČNAčGAČOčEČPAčHAČSAčHAČTAčHAčONE MYA BOĕCYA",
  "ĕJEUĕNAĕTIđNA POčSAĎHAČUčEčHČWAČXAČYAčHAČZAčHAąPUNCTUATION COMMAđFULL STOPĂVRE TOURNOIS SIGN",
  "ĂZARDāLAMAāOBSTERĂCKĄ WITH INK PENĄING-SHIFT ONEĎZEROĂGICAL ANDċ WITH DOT ABOVEēUBLE OVERBAR",
  "ĘUNDERBARđHORIZONTAL DASHđMIDDLE STEMđUNDERBARĈORĊ OVERLAPPING LOGICAL ANDċWITH DOT ABOVE",
  "ĒUBLE OVERBARėUNDERBARĐHORIZONTAL DASHĐMIDDLE STEMĂLLIPOP",
  "ĂNG DASH FROM LEFT MEMBER OF DOUBLE VERTICALĆIVISIONĆRUMąLEFT RIGHT ARROWĐDOUBLE ARROWĊTACK",
  "ĉWARDS ARROWĔ FROM BARďDOUBLE ARROWě FROM BARďSQUIGGLE ARROWąRIGHT TACKĊWARDS ARROWĕ FROM BAR",
  "ĐDOUBLE ARROWĜ FROM BARĐSQUIGGLE ARROWĂTION BOTTLEăUSĂUDLY CRYING FACEĂVE HOTELąLETTER",
  "ĂW ASTERISKĄBATTERYąRIGHTNESS SYMBOLĄDOUBLE PRIME QUOTATION MARKĄKAVYKAĊ WITH DOTĄLINE",
  "ăER BLADE SCISSORSĆFIVE EIGHTHS BLOCKĆHALF BLOCKċCIRCLEċINVERSE WHITE CIRCLEċMEDIUM SHADE",
  "ĆLEFT BALLPOINT PENČLOCK DIAGONAL LOWER MIDDLE LEFT TO LOWER CENTREĵRIGHT",
  "ĚUPPER CENTRE TO LOWER MIDDLE RIGHTİRIGHTĪUPPER MIDDLE RIGHTĠLEFT TO LOWER CENTREĮMIDDLE RIGHT",
  "ĨUPPER MIDDLE RIGHTĠMIDDLE LEFT TO LOWER CENTREĵMIDDLE RIGHTĵRIGHTċCRAYONċFOUNTAIN PEN",
  "ċPAINTBRUSHČENCILċQUADRANT CIRCULAR ARCċSEMICIRCULAR ANTICLOCKWISE ARROWċTRIANGLE",
  "đULAR MEDIUM SHADEĆONE EIGHTH BLOCKĊQUARTER BLOCK",
  "ĆRIGHT BLOCK DIAGONAL LOWER CENTRE TO LOWER MIDDLE RIGHTīUPPER MIDDLE RIGHTıRIGHT",
  "ġLEFT TO LOWER MIDDLE RIGHTĩUPPER CENTREįMIDDLE RIGHTġMIDDLE LEFT TO UPPER CENTREĶMIDDLE RIGHT",
  "ĶRIGHTěUPPER MIDDLE LEFT TO UPPER CENTREĶRIGHTČCORNER WITH DOTČDROP-SHADOWED WHITE SQUARE",
  "ČPENCILČQUADRANT CIRCULAR ARCČSEMICIRCULAR CLOCKWISE ARROWčHADOWED WHITE CIRCLEěSQUARE",
  "ČTRIANGLEĒULAR MEDIUM SHADEĆSEVEN EIGHTHS BLOCKĆTHREE EIGHTHS BLOCKČQUARTERS BLOCK",
  "ćRIANGULAR ONE QUARTER BLOCKĂZENGEć DIVIDED BY HORIZONTAL RULEāREĂIĂMĂOāUGGAGEĂNGS",
  "āYCIAN LETTER AďNĎBďHĎDĎEďNĎGĎHĎIĎJĎKďKĎLĎMďMĎNďNĎPĎQĎRĎSĎTďHďTĎUĎWĎXĎZĂDIAN LETTER AďNĎBĎCĎD",
  "ĎEďNĎFĎGĎIĎKĎLďYĎMĎNďNĎOĎQĎRĎSďSĎTďTĎUĎVĎYćTRIANGULAR MARKĂING FACEĀMACRONĂGEăIC WANDăNET",
  "ĂHAJANI ABBREVIATION SIGNĉLETTER AĐBAđHAĐCAđHAĐDAđDAĒHAđHAĐEĐGAđHAĐHAĐIĐJAđHAĐKAđHAĐLAĐMAĐNA",
  "đNAđYAĐOĐPAđHAĐRAđRAĐSAĐTAđHAđTAĒHAĐUĐVAĊIGATURE SHRIĉSECTION MARKĊIGN NUKTAăJONG TILE AUTUMN",
  "čBACKďMBOOčCHRYSANTHEMUMčEAST WINDĎIGHT OF BAMBOOSĖCHARACTERSėIRCLESčFIVE OF BAMBOOS",
  "ĕCHARACTERSĖIRCLESĎOUR OF BAMBOOSĕCHARACTERSĖIRCLESčGREEN DRAGONčJOKERčNINE OF BAMBOOS",
  "ĕCHARACTERSĖIRCLESĎORTH WINDčONE OF BAMBOOSĔCHARACTERSĕIRCLESĎRCHIDčPLUMčRED DRAGON",
  "čSEVEN OF BAMBOOSĖCHARACTERSėIRCLESĎIX OF BAMBOOSĔCHARACTERSĕIRCLESĎOUTH WINDĎPRINGĎUMMER",
  "čTHREE OF BAMBOOSĖCHARACTERSėIRCLESĎWO OF BAMBOOSĔCHARACTERSĕIRCLESčWEST WINDĎHITE DRAGON",
  "ĎINTERĂKASAR ANGKAĈEND OF SECTIONĈLETTER AďBAďCAďDAďGAďJAďKAďLAďMAďNAĐGAĐYAďPAďRAďSAďTAďVAďYA",
  "ĈPASSIMBANGĈVOWEL SIGN EēIēOēUĂLAYALAM AU LENGTH MARKĊDATE MARKċIGIT EIGHTĐFIVEđOURĐNINEĐONE",
  "ĐSEVENđIXĐTHREEđWOĐZEROĊFRACTION ONE EIGHTHėFIFTHĘORTIETHėHALFėONE-HUNDRED-AND-SIXTIETH",
  "ėQUARTERėSIXTEENTHėTENTHĘWENTIETHēTHREE EIGHTIETHSęQUARTERSęSIXTEENTHSęTWENTIETHSĊLETTER AĒAĒI",
  "ĒRCHAIC IIĒUđBAĒHAđCAĒHAēILLU KĘLęLĚLĘMĘNęNĘRRĘYđDAĒDAēHAĒHAĒOT REPHđEĒEđGAĒHAđHAđIĒIđJAĒHAđKA",
  "ĒHAđLAĒLAēLAđMAđNAĒGAĒNAēNAĒYAđOĒOđPAĒHAđRAĒRAđSAĒHAĒSAđTAĒHAĒTAēHAēTAđUĒUđVAĒEDIC ANUSVARA",
  "ĒOCALIC LĚLęRĚRđYAĊNUMBER ONE HUNDREDĕTHOUSANDđTENĊSIGN ANUSVARAĐVAGRAHAďCANDRABINDU",
  "ĐIRCULAR VIRAMAĐOMBINING ANUSVARA ABOVEďPARAďVERTICAL BAR VIRAMAĐIRAMAđSARGAĊVOWEL SIGN AAĖIĖU",
  "ĕEĖEĕIĖIĕOĖOĕUĖUĕVOCALIC LĞLĝRĞRăE AND FEMALE SIGNąSIGNąWITH STROKE AND MALE AND FEMALE SIGN",
  "đSIGNăTESE CROSSĂMMOTHĂNă AND WOMAN HOLDING HANDSĄDANCINGĄIN BUSINESS SUIT LEVITATINGćTUXEDO",
  "ĄWITH GUA PI MAOĉTURBANăAT SIGNăDAIC AFFRICATION MARKĈGEMINATION MARKĈLETTER ABĐDĐGĐHĐINĐKđSA",
  "ĐLĐMĐNĐPĐQĐRĐSđHđZĐTđTĐZďDUSHENNAďHALQAďINĐTďKADďUSHENNAĈPUNCTUATIONĈVOCALIZATION MARKăGO",
  "ăICHAEAN ABBREVIATION MARK ABOVEĝBELOWċLETTER AAYINēLEPHēYINĒBETHēHETHĒDALETHēHAMEDHĒFEĒGHIMEL",
  "ēIMELĒHEĔTHĒJAYINēHAYINĒKAPHēHAPHĒLAMEDHĒMEMĒNUNĒPEĒQHOPHēOPHĒRESHĒSADHEĔMEKHēHINēSHINĒTAWēETH",
  "ēHAMEDHĒWAWĒXAPHēOPHĒYODHĒZAYINēHAYINċNUMBER FIVEĒONEĕ HUNDREDĒTENēWENTYċPUNCTUATION DOT",
  "Ě WITHIN DOTęUBLE DOT WITHIN DOTėFLEURONėLINE FILLERėSTARėTWO DOTSċSIGN UDăS SHOE",
  "ăTELPIECE CLOCKăUAL WHEELCHAIRĂP SYMBOL FOR LIGHTHOUSEăLE LEAFĂRCHEN HEAD MARKĈLETTER -AďAďBA",
  "ďCAĐHAďDAĐZAďGAďHAďJAďKAĐHAďLAďMAďNAĐGAĐYAďPAĐHAďRAďSAĐHAďTAĐHAĐSAđHAďWAďYAďZAĐHAĈMARK SHAD",
  "ĈSIGN ANUSVARAčCANDRABINDUĉUBJOINED LETTER AęBAęCAĚHAęDAĚZAęGAęHAęJAęKAĚHAęLAęMAęNAĚGAĚYAęPA",
  "ĚHAęRAęSAĚHAęTAĚHAĚSAěHAęWAęYAęZAĚHAĈVOWEL SIGN AAēEēIēOēUăRIAGE SYMBOLăTIAL ARTS UNIFORM",
  "ĂSARAM GONDI DIGIT EIGHTĔFIVEĕOURĔNINEĔONEĔSEVENĕIXĔTHREEĕWOĔZEROĎLETTER AĖAĖIĖUĕBAĖHAĕCAĖHA",
  "ĕDAĖDAėHAĖHAĕEĕGAĖHAĕHAĕIĖIĕJAĖHAĖNYAĕKAĖHAĖSSAĕLAĖLAĕMAĕNAĖGAĖNAĖYAĕOĕPAĖHAĕRAĕSAĖHAĖSAĕTAĖHA",
  "ĖRAĖTAėHAĕUĖUĕVAĕYAĎRA-KARAďEPHAĎSIGN ANUSVARAēCANDRAēHALANTAēNUKTAēVISARGAĎVIRAMA",
  "ďOWEL SIGN AAĚIĚUęEęIĚIęOęUĚUęVOCALIC RăCULINE ORDINAL INDICATORăK WORK SYMBOLăU MARKĂTE DRINK",
  "ăHEMATICAL BOLD CAPITAL AěLPHAĚBěETAĚCěHIĚDěELTAěIGAMMAĚEěPSILONěTAĚFĚGěAMMAĚHĚIěOTAĚJĚKěAPPA",
  "ĚLěAMDAĚMěUĚNěUĚOěMEGAĜICRONĚPěHIěIěSIĚQĚRěHOĚSěIGMAĚTěAUěHETAğ SYMBOLĚUěPSILONĚVĚWĚXěIĚYĚZ",
  "ěETAĒDIGIT EIGHTĘFIVEęOURĘNINEĘONEĘSEVENęIXĘTHREEęWOĘZEROĒEPSILON SYMBOLĒFRAKTUR CAPITAL AĢBĢC",
  "ĢDĢEĢFĢGĢHĢIĢJĢKĢLĢMĢNĢOĢPĢQĢRĢSĢTĢUĢVĢWĢXĢYĢZĚSMALL AĠBĠCĠDĠEĠFĠGĠHĠIĠJĠKĠLĠMĠNĠOĠPĠQĠRĠSĠTĠU",
  "ĠVĠWĠXĠYĠZĒITALIC CAPITAL AĢLPHAġBĢETAġCĢHIġDĢELTAġEĢPSILONĢTAġFġGĢAMMAġHġIĢOTAġJġKĢAPPAġL",
  "ĢAMDAġMĢUġNĢUġOĢMEGAģICRONġPĢHIĢIĢSIġQġRĢHOġSĢIGMAġTĢAUĢHETAĦ SYMBOLġUĢPSILONġVġWġXĢIġYġZĢETA",
  "ęEPSILON SYMBOLęKAPPA SYMBOLęNABLAęPARTIAL DIFFERENTIALĚHI SYMBOLĚI SYMBOLęRHO SYMBOLęSMALL A",
  "ĠLPHAğBĠETAğCĠHIğDĠELTAğEĠPSILONĠTAğFĠINAL SIGMAğGĠAMMAğHğIĠOTAğJğKĠAPPAğLĠAMDAğMĠUğNĠUğOĠMEGA",
  "ġICRONğPĠHIĠIĠSIğQğRĠHOğSĠIGMAğTĠAUĠHETAğUĠPSILONğVğWğXĠIğYğZĠETAęTHETA SYMBOLĒKAPPA SYMBOL",
  "ĒNABLAĒPARTIAL DIFFERENTIALēHI SYMBOLēI SYMBOLĒRHO SYMBOLĒSCRIPT CAPITAL AġBġCġDġEġFġGġHġIġJġK",
  "ġLġMġNġOġPġQġRġSġTġUġVġWġXġYġZęSMALL AğBğCğDğEğFğGğHğIğJğKğLğMğNğOğPğQğRğSğTğUğVğWğXğYğZ",
  "ēMALL AęLPHAĘBęETAĘCęHIĘDęELTAęIGAMMAĘEęPSILONęTAĘFęINAL SIGMAĘGęAMMAĘHĘIęOTAĘJĘKęAPPAĘLęAMDA",
  "ĘMęUĘNęUĘOęMEGAĚICRONĘPęHIęIęSIĘQĘRęHOĘSęIGMAĘTęAUęHETAĘUęPSILONĘVĘWĘXęIĘYĘZęETAĒTHETA SYMBOL",
  "čDOUBLE-STRUCK CAPITAL AģBģDģEģFģGģIģJģKģLģMģOģSģTģUģVģWģXģYěDIGIT EIGHTġFIVEĢOURġNINEġONE",
  "ġSEVENĢIXġTHREEĢWOġZEROěSMALL AġBġCġDġEġFġGġHġIġJġKġLġMġNġOġPġQġRġSġTġUġVġWġXġYġZ",
  "čFALLING DIAGONALĎRAKTUR CAPITAL AĝBĝDĝEĝFĝGĝJĝKĝLĝMĝNĝOĝPĝQĝSĝTĝUĝVĝWĝXĝYĕSMALL AěBěCěDěEěFěG",
  "ěHěIěJěKěLěMěNěOěPěQěRěSěTěUěVěWěXěYěZčITALIC CAPITAL AĝLPHAĜBĝETAĜCĝHIĜDĝELTAĜEĝPSILONĝTAĜFĜG",
  "ĝAMMAĜHĜIĝOTAĜJĜKĝAPPAĜLĝAMDAĜMĝUĜNĝUĜOĝMEGAĞICRONĜPĝHIĝIĝSIĜQĜRĝHOĜSĝIGMAĜTĝAUĝHETAġ SYMBOLĜU",
  "ĝPSILONĜVĜWĜXĝIĜYĜZĝETAĔEPSILON SYMBOLĔKAPPA SYMBOLĔNABLAĔPARTIAL DIFFERENTIALĕHI SYMBOL",
  "ĕI SYMBOLĔRHO SYMBOLĔSMALL AěLPHAĚBěETAĚCěHIĚDěELTAěOTLESS IĢJĚEěPSILONěTAĚFěINAL SIGMAĚGěAMMA",
  "ĚIěOTAĚJĚKěAPPAĚLěAMDAĚMěUĚNěUĚOěMEGAĜICRONĚPěHIěIěSIĚQĚRěHOĚSěIGMAĚTěAUěHETAĚUěPSILONĚVĚWĚXěI",
  "ĚYĚZěETAĔTHETA SYMBOLčLEFT ANGLE BRACKETĒDOUBLE ANGLE BRACKETĒFLATTENED PARENTHESIS",
  "ĒWHITE SQUARE BRACKETĘTORTOISE SHELL BRACKETčMONOSPACE CAPITAL AğBğCğDğEğFğGğHğIğJğKğLğMğNğOğP",
  "ğQğRğSğTğUğVğWğXğYğZėDIGIT EIGHTĝFIVEĞOURĝNINEĝONEĝSEVENĞIXĝTHREEĞWOĝZEROėSMALL AĝBĝCĝDĝEĝFĝG",
  "ĝHĝIĝJĝKĝLĝMĝNĝOĝPĝQĝRĝSĝTĝUĝVĝWĝXĝYĝZčRIGHT ANGLE BRACKETēDOUBLE ANGLE BRACKET",
  "ēFLATTENED PARENTHESISēWHITE SQUARE BRACKETęTORTOISE SHELL BRACKETďSING DIAGONAL",
  "čSANS-SERIF BOLD CAPITAL AĦLPHAĥBĦETAĥCĦHIĥDĦELTAĥEĦPSILONĦTAĥFĥGĦAMMAĥHĥIĦOTAĥJĥKĦAPPAĥLĦAMDA",
  "ĥMĦUĥNĦUĥOĦMEGAħICRONĥPĦHIĦIĦSIĥQĥRĦHOĥSĦIGMAĥTĦAUĦHETAĪ SYMBOLĥUĦPSILONĥVĥWĥXĦIĥYĥZĦETA",
  "ĝDIGIT EIGHTģFIVEĤOURģNINEģONEģSEVENĤIXģTHREEĤWOģZEROĝEPSILON SYMBOLĝITALIC CAPITAL AĭLPHAĬB",
  "ĭETAĬCĭHIĬDĭELTAĬEĭPSILONĭTAĬFĬGĭAMMAĬHĬIĭOTAĬJĬKĭAPPAĬLĭAMDAĬMĭUĬNĭUĬOĭMEGAĮICRONĬPĭHIĭIĭSIĬQ",
  "ĬRĭHOĬSĭIGMAĬTĭAUĭHETAı SYMBOLĬUĭPSILONĬVĬWĬXĭIĬYĬZĭETAĤEPSILON SYMBOLĤKAPPA SYMBOLĤNABLA",
  "ĤPARTIAL DIFFERENTIALĥHI SYMBOLĥI SYMBOLĤRHO SYMBOLĤSMALL AīLPHAĪBīETAĪCīHIĪDīELTAĪEīPSILONīTA",
  "ĪFīINAL SIGMAĪGīAMMAĪHĪIīOTAĪJĪKīAPPAĪLīAMDAĪMīUĪNīUĪOīMEGAĬICRONĪPīHIīIīSIĪQĪRīHOĪSīIGMAĪTīAU",
  "īHETAĪUīPSILONĪVĪWĪXīIĪYĪZīETAĤTHETA SYMBOLĝKAPPA SYMBOLĝNABLAĝPARTIAL DIFFERENTIALĞHI SYMBOL",
  "ĞI SYMBOLĝRHO SYMBOLĝSMALL AĤLPHAģBĤETAģCĤHIģDĤELTAģEĤPSILONĤTAģFĤINAL SIGMAģGĤAMMAģHģIĤOTAģJ",
  "ģKĤAPPAģLĤAMDAģMĤUģNĤUģOĤMEGAĥICRONģPĤHIĤIĤSIģQģRĤHOģSĤIGMAģTĤAUĤHETAģUĤPSILONģVģWģXĤIģYģZĤETA",
  "ĝTHETA SYMBOLĘCAPITAL AĠBĠCĠDĠEĠFĠGĠHĠIĠJĠKĠLĠMĠNĠOĠPĠQĠRĠSĠTĠUĠVĠWĠXĠYĠZĘDIGIT EIGHTĞFIVEğOUR",
  "ĞNINEĞONEĞSEVENğIXĞTHREEğWOĞZEROĘITALIC CAPITAL AħBħCħDħEħFħGħHħIħJħKħLħMħNħOħPħQħRħSħTħUħVħW",
  "ħXħYħZğSMALL AĥBĥCĥDĥEĥFĥGĥHĥIĥJĥKĥLĥMĥNĥOĥPĥQĥRĥSĥTĥUĥVĥWĥXĥYĥZĘSMALL AĞBĞCĞDĞEĞFĞGĞHĞIĞJĞKĞL",
  "ĞMĞNĞOĞPĞQĞRĞSĞTĞUĞVĞWĞXĞYĞZĎCRIPT CAPITAL AĜCĜDĜGĜJĜKĜNĜOĜPĜQĜSĜTĜUĜVĜWĜXĜYĜZĔSMALL AĚBĚCĚDĚF",
  "ĚHĚIĚJĚKĚLĚMĚNĚPĚQĚRĚSĚTĚUĚVĚWĚXĚYĚZĂXIMIZEĂYAN NUMERAL EIGHTēEENďLEVENĎFIFTEENĐVEďOURĒTEEN",
  "ĎNINEĒTEENĎONEĎSEVENēTEENďIXđTEENĎTENďHIRTEENĐREEďWELVEĐOĎZEROāEASURED ANGLEĎ OPENING LEFT",
  "ďWITH OPEN ARM ENDING IN ARROW POINTING DOWN AND LEFTĿRIGHTĶLEFT AND DOWNĿUPĶRIGHT AND DOWNŀUP",
  "ĶUP AND LEFTĽRIGHTĉBYĉRIGHT ANGLE WITH DOTăT ON BONEĂCHANICAL ARMċLEG",
  "ĂDEFAIDRIN CAPITAL LETTER AĜIĜTIUěBěCěDěEěFěGěHĜPěIěJěKĜPěLěMěNĜGĜYěOĜEěPěQěRěSěTěUěVěWěXěYĜU",
  "ěZčOMMAČDIGIT EIGHTĒFIVEēOURĒNINEĒONEĕ ALTERNATE FORMĒSEVENēIXĒTHREEė ALTERNATE FORMēWO",
  "ĕ ALTERNATE FORMĒZEROČEXCLAMATION OHČFULL STOPČNUMBER EIGHTEENĔLEVENēFIFTEENĔOURTEENēNINETEEN",
  "ēSEVENTEENĔIXTEENēTENĔHIRTEENĔWELVEČSMALL LETTER AĚIĚTIUęBęCęDęEęFęGęHĚPęIęJęKĚPęLęMęNĚGĚYęOĚE",
  "ęPęQęRęSęTęUęVęWęXęYĚUęZčYMBOL AIVAăIEVAL COMMAĉEXCLAMATION MARKĉQUESTION MARKĄUM BLACK CIRCLE",
  "ĈOLD WHITE CIRCLEćEIGHT POINTED BLACK STARčSPOKED ASTERISKćFIVE SPOKED ASTERISK",
  "ĈLATTENED LEFT PARENTHESIS ORNAMENTđRIGHT PARENTHESIS ORNAMENTĈOUR POINTED BLACK STAR",
  "ĔPINWHEEL STARćGREEK CROSSćLEFT CURLY BRACKET ORNAMENTČPARENTHESIS ORNAMENT",
  "ċ-POINTING ANGLE BRACKET ORNAMENTćMATHEMATICAL SPACEćRIGHT CURLY BRACKET ORNAMENT",
  "čPARENTHESIS ORNAMENTČ-POINTING ANGLE BRACKET ORNAMENTćSALTIREĈHADEĈIX POINTED BLACK STAR",
  "ċSPOKED ASTERISKĈMALL WHITE CIRCLEćTHREE POINTED BLACK STARĕPINWHEEL STARćVERTICAL BAR",
  "ćWHITE CIRCLEčSQUAREĂETEI MAYEK AHANG KHUDAMĎNJIĎPUN IYEKčCHEIKHANēEIčDIGIT EIGHTēFIVEĔOUR",
  "ēNINEēONEēSEVENĔIXēTHREEĔWOēZEROčLETTER ATIYAĔBAĕHAMĔCHAĖILĔDDAĖHAĕHOUĕILĔEĔGHOUĕOKĔHUKĔI",
  "ĕ LONSUMĔJHAMĕILĔKHOUĕOKė LONSUMĔLAIė LONSUMĔMITė LONSUMĔNAĖ LONSUMĕGOUĘ LONSUMĕNAĕYAĔOĔPA",
  "Ė LONSUMĕHAMĔRAIĔSAMĕHAĕSAĔTHOUĕILė LONSUMĕTAĖHAĔUNĔWAIĔYANGĎUM IYEKčSYLLABLE REPETITION MARK",
  "čVIRAMAĎOWEL SIGN AAIĚUęNAPęUĘCHEINAPĘIIęNAPĘNUNGĘONAPĘSOUNAPĘUNAPęUĘVISARGAĘYENAP",
  "čWORD REPETITION MARKĂLONăTING FACEĂMOĂNDE KIKAKUI COMBINING NUMBER HUNDRED THOUSANDSĦS",
  "ğMILLIONSğTEENSġN THOUSANDSĢSĠHOUSANDSĎDIGIT EIGHTĔFIVEĕOURĔNINEĔONEĔSEVENĕIXĔTHREEĕWO",
  "ĎSYLLABLE M001 KIĚ2 KAĚ3 KUĚ4 WIĚ5 WAĚ6 WUĚ7 MINĚ8 MANĚ9 MUNę10 BIĚ1 BAĚ2 BUĚ3 IĚ4 AĚ5 UĚ6 DI",
  "Ě7 DAĚ8 DUĚ9 SIę20 SAĚ1 SUĚ2 TIĚ3 TAĚ4 TUĚ5 LIĚ6 LAĚ7 LUĚ8 JIĚ9 JAę30 JUĚ1 YIĚ2 YAĚ3 YUĚ4 FI",
  "Ě5 FAĚ6 FUĚ7 NINĚ8 NANĚ9 NUNę40 HEEĚ1 HAĚ2 HOOĚ3 NGGAĚ4 KPEEĚ5 WOĚ6 HUANĚ7 MBEEĚ8 KOĚ9 WVA",
  "ę50 PUĚ1 PEĚ2 HENĚ3 HINĚ4 LOOĚ5 TEĚ6 GBAĚ7 NGONĚ8 NYANĚ9 MENę60 NYONĚ1 WVIĚ2 MBAĚ3 JOĚ4 NDO",
  "Ě5 KEEĚ6 POĚ7 NDOOĚ8 PIĚ9 TOę70 GBOĚ1 GBOOĚ2 MBEĚ3 LEĚ4 KPUĚ5 FEĚ6 KOOĚ7 VOĚ8 FEEĚ9 SOę80 YE",
  "Ě1 PEEĚ2 NGGUĚ3 HEEIĚ4 LEEĚ5 VEĚ6 LONG NGGEĚ7 HUNĚ8 FOĚ9 DEEę90 NGGIĚ1 TEEĚ2 KPAĚ3 GBEEĚ4 MON",
  "Ě5 KEĚ6 HEĚ7 BEĚ8 NYENĚ9 PAĘ100 EĚ1 FANĚ2 POOĚ3 BOOĚ4 TOOĚ5 LONG MBOOĚ6 LONG NGGOOĚ7 GBEĚ8 KPE",
  "Ě9 YEEę10 LONG LEĚ1 GAĚ2 KPOOĚ3 JEĚ4 WOOĚ5 NGGEEĚ6 SEĚ7 NENĚ8 WEĚ9 NDEę20 NGGOĚ1 YOĚ2 MBU",
  "Ě3 NDIĚ4 GBIĚ5 NDUĚ6 WEEĚ7 NGGUAĚ8 HOOUĚ9 NDAę30 HANĚ1 INĚ2 KPIĚ3 FOOĚ4 NJOOĚ5 INĚ6 SOOĚ7 EI",
  "Ě8 BOĚ9 WVEę40 HOĚ1 YOOĚ2 LONG MBOĚ3 WEIĚ4 VOOĚ5 MBIĚ6 NGGEĚ7 OĚ8 GBUĚ9 NJEEę50 BEEĚ1 VUĚ2 NJA",
  "Ě3 LOĚ4 MUANĚ5 GIĚ6 NGGOOĚ7 JEEĚ8 KPOĚ9 NGGAAę60 JOOĚ1 LONG MBEĚ2 SEEĚ3 EEĚ4 NYINĚ5 OOĚ6 GUEI",
  "Ě7 GUANĚ8 GUĚ9 NONę70 NYUNĚ1 RAĚ2 MBOOĚ3 VEEĚ4 MBOĚ5 LONG JOĚ6 HIĚ7 NGUANĚ8 ENĚ9 KUAę80 DOO",
  "Ě1 DOĚ2 VIĚ3 LONG NGGOĚ4 NGENĚ5 VAĚ6 HUĚ7 MBUUĚ8 MBEEĚ9 MUENę90 GEEĚ1 NDEEĚ2 NJUĚ3 HONĚ4 WUI",
  "Ě5 ANĚ6 SIAĚ7 FUAăORAH WITH NINE BRANCHESăS SYMBOLĂRCURYăOITIC CURSIVE FRACTION EIGHT TWELFTHS",
  "ěLEVEN TWELFTHSĚFIVE TWELFTHSěOUR TWELFTHSĚNINE TWELFTHSĚONE HALFĞTWELFTHĚSEVEN TWELFTHS",
  "ěIX TWELFTHSĚTEN TWELFTHSěHREE TWELFTHSěWO TWELFTHSđLETTER AęRCHAIC SAĘBAĘDAĘEĘHHAĘIĘKAęHAĘLA",
  "ĘMAĘNAęEĘOĘPAĘQAĘRAĘSAęEĘTAęEęOĘWAĘYAĒOGOGRAM IMNĚRMTđNUMBER EIGHTĝ HUNDREDĥ THOUSANDĞTHOUSAND",
  "ĝY THOUSANDĘFIFTYĝ THOUSANDĚVEĜ HUNDREDĤ THOUSANDĝTHOUSANDęORTYĝ THOUSANDĚURĜ HUNDRED",
  "Ĥ THOUSANDĝTHOUSANDĘNINEĜ HUNDREDĤ THOUSANDĝTHOUSANDĜTY THOUSANDĘONEě HUNDREDģ THOUSAND",
  "ĜTHOUSANDĘSEVENĝ HUNDREDĥ THOUSANDĞTHOUSANDĝTYğ THOUSANDęIXě HUNDREDģ THOUSANDĜTHOUSANDěTY",
  "ĝ THOUSANDĘTENě THOUSANDęHIRTYĞ THOUSANDĚREEĝ HUNDREDĥ THOUSANDĞTHOUSANDęWENTYĞ THOUSANDĚO",
  "ě HUNDREDģ THOUSANDĜTHOUSANDĉHIEROGLYPHIC LETTER AĝBAğ-2ĝDAĝEĝHHAĝIĝKAĞHAĝLAĝMAĝNAğ-2ĞEğ-2ĝO",
  "ĝPAĝQAĝRAğ-2ĝSAğ-2ĞEĝTAğ-2ĞEğ-2ĞOĝWAĝYAĖSYMBOL VIDJġ-2ăPERSONĂSSAGE WAITINGĂTRICAL BREVE",
  "ĉLONG OVER SHORTēTWO SHORTSĉPENTASEMEĉSHORT OVER LONGĉTETRASEMEĊRISEMEĊWO SHORTS JOINED",
  "ĔOVER LONGĄOāIAO LETTER AHčRCHAIC MAĔNAĕGAĔZZAČBAčRIČDAčDAčLHAďYAčZAĎHAĎYIĎZAČFAČGAčHAĎHAČHA",
  "čHAČKAČLAčHAĎYAčYAČMAčHAČNAĎSALIZATIONčGAĎHAčHAčNAĎHAčYAĎHAČPAčLAČQAčGAČREFORMED TONE-1Ě2Ě4Ě5",
  "Ě6Ě8ĖSHAčTEČSAčHAčSAčYIČTAčEčLHAďYAčONE-2đ3đ4đ5đ6đ7đ8čSAĎEĎHAĎSAčTAČVAčFAČWAČXAČYI DZHAďKAďNNA",
  "ďPAďTAĐSAđHAĐTAČZAčHAčSAĎHAčZAĎSAďYAĎYAąSIGN ASPIRATIONĊCONSONANT MODIFIER BAR",
  "ĊREFORMED ASPIRATIONēVOICINGąTONE ABOVEĊBELOWĊRIGHTĊTOP RIGHTąVOWEL SIGN AđAđEĒEđHHđIđNĒGđUĐE",
  "đAđIđNĒGđRĒRĐIđAĒNēGđEđGđIđNGđOĒNGđUĐNđGĐOđERĒYđGđOđUĐROUNDED ERĚRĐUđAĒNēGđEIđIđNGđOGđUĐVWĐWđO",
  "ĐYđIđUIĂCR DASH SYMBOLąON US SYMBOLĄO SIGNąBEąPHONEąSCOPEĂDDLE DOT",
  "ćTHIRD WHITE RIGHT POINTING INDEXăLINE HORIZONTAL ELLIPSISĂLITARY HELMETĉMEDALăKY WAYăL SIGN",
  "ĂNIBUSĄDISCĄMIZEăUS SIGNĊ IN TRIANGLEċWITH COMMA ABOVEĐDOT BELOWĐFALLING DOTSĐRISING DOTS",
  "ĆTILDEą-OR-PLUS SIGNăYĂRRORĆ BALLāMSPāOBILE PHONEČ OFFčWITH RIGHTWARDS ARROW AT LEFTĂDELS",
  "ĄRN PENTATHLONăI ABBREVIATION SIGNąDANDAĆIGIT EIGHTċFIVEČOURċNINEċONEċSEVENČIXċTHREEČWOċZERO",
  "ĆOUBLE DANDAąLETTER AčAčIčUČBAčHAČCAčHAČDAčDAĎHAčHAČEČGAčHAČHAČIčIČJAčHAČKAčHAČLAčLAČMAČNAčGA",
  "čNAčYAČOČPAčHAČRAČSAčHAčSAČTAčHAčTAĎHAČUčUČVAčOCALIC LĕLĔRĕRČYAąSIGN ANUSVARAċRDHACANDRAĊHUVA",
  "ĊVIRAMAČSARGAąVOWEL SIGN AAđIđUĐEĐIđIĐOĐUđUĐVOCALIC LęLĘRęRĄFIER BREVE WITH INVERTED BREVE",
  "ĉLETTER ACUTE ACCENTđLVEOLAR CLICKđPOSTROPHEĐBEGIN HIGH TONEĖLOW TONEđILABIAL CLICKĐCAPITAL A",
  "ęEĘBęARRED BĘCĘDĘEĘFĘGĘHę WITH STROKEĘIĘJĘKĘLĘMĘNĘOęUĘPĘQĘRęEVERSED EġNĘTĘUĘVĘW",
  "đENTRED LEFT HALF RINGĘRIGHT HALF RINGđHINESE TONE YANG PINGĢQUĢRUĢSHANGĞIN PINGġQUġRUġSHANG",
  "đIRCUMFLEX ACCENTđOLONđROSS ACCENTđYRILLIC ENęHARD SIGNęSOFT SIGNĐDENTAL CLICK",
  "đOT HORIZONTAL BARĔSLASHĔVERTICAL BARĒUBLE APOSTROPHEėPRIMEĒWN ARROWHEADĕTACKĐEND HIGH TONE",
  "ĔLOW TONEđXTRA-HIGH DOTTED LEFT-STEM TONE BARĢTONE BARěLEFT-STEM TONE BARěTONE BAR",
  "ĖLOW DOTTED LEFT-STEM TONE BARġTONE BARĚLEFT-STEM TONE BARĚTONE BARĐGEORGIAN NARđLOTTAL STOP",
  "Ĝ WITH STROKEđRAVE ACCENTĐHALF TRIANGULAR COLONđIGH DOTTED LEFT-STEM TONE BARĜTONE BAR",
  "ĕLEFT-STEM TONE BARĕTONE BARĐLATERAL CLICKđEFT ARROWHEADĕHALF RINGĕTACKđOW ACUTE ACCENT",
  "ĔCIRCUMFLEX ACCENTĔDOTTED LEFT-STEM TONE BARěTONE BARĖWN ARROWHEADĔGRAVE ACCENT",
  "ĔINVERTED EXCLAMATION MARKĔLEFT ARROWĞHEADĘ-STEM TONE BARĔMACRONĔRIGHT ARROWHEADĖNGĔTILDE",
  "ĕONE BARĔUP ARROWHEADĔVERTICAL LINEēER RIGHT CORNER ANGLEĐMACRONđID DOTTED LEFT-STEM TONE BAR",
  "ěTONE BARĔLEFT-STEM TONE BARĔTONE BARēDLE DOUBLE ACUTE ACCENTĞGRAVE ACCENTėGRAVE ACCENT",
  "ĒNUS SIGNĐOPEN SHELFĐPLUS SIGNđRIMEĐRAISED COLONėDOWN ARROWėEXCLAMATION MARK",
  "ėINVERTED EXCLAMATION MARKėUP ARROWđETROFLEX CLICK WITH RETROFLEX HOOKĒVERSED COMMA",
  "ęGLOTTAL STOPĥ WITH STROKEđHOTIC HOOKđIGHT ARROWHEADĖHALF RINGĖTACKĐSHELFĒORT EQUALS SIGN",
  "đMALL AėEėINėLPHAĖBė WITH HOOKėARRED OėETAėOTTOM HALF OĖCė WITH CURLėAPITAL AAĞBĞGğ WITH HOOK",
  "ĞHĞIğ WITH STROKEğNVERTED RĞLğ WITH BELTĞNĞOEĞRĞUĞYėHIėLOSED OMEGAĝREVERSED OPEN EĖD",
  "ė WITH HOOKġ AND TAILĝTAILėELTAĘZH DIGRAPHėOTLESS J WITH STROKEī AND HOOKėZ DIGRAPHĠ WITH CURL",
  "ĦRETROFLEX HOOKĖEėNGėSHėTHėZHĖFėENG DIGRAPHĖGė WITH HOOKėAMMAėREEK GAMMAĜPHIĖHė WITH HOOK",
  "ĝSTROKEėENGĚ WITH HOOKĖI WITH STROKEėOTAĖJė WITH CROSSED-TAILĖKĖLė WITH BELTĝINVERTED LAZY S",
  "ĝMIDDLE TILDEĝPALATAL HOOKĝRETROFLEX HOOKī AND BELTėEZHĚ WITH RETROFLEX HOOKėIGATURE OE",
  "ėS DIGRAPHėZ DIGRAPHĖMė WITH HOOKĖN WITH LEFT HOOKĝRETROFLEX HOOKĖOė WITH STROKEėPEN EěOĖPėHI",
  "ĖQĖRė WITH FISHHOOKĝTAILėAMS HORNėEVERSED EğGLOTTAL STOPğOPEN EĖSė WITH CURLĝHOOKėCHWAĘRIPT G",
  "ėIDEWAYS UĖTė WITH PALATAL HOOKĝRETROFLEX HOOKėC DIGRAPH WITH CURLėESH DIGRAPHėHETAėOP HALF O",
  "ėS DIGRAPHĠ WITH RETROFLEX HOOKėURNED AĞEĞLPHAĝHĝIĝMĞ WITH LONG LEGĝOPEN EĝRĞ WITH HOOK",
  "ĤLONG LEGĬ AND RETROFLEX HOOKĝVĝWĝYĞ WITH BELTĖUė BARĘWITH LEFT HOOKėPSILONĖVė WITH HOOK",
  "ĝRIGHT HOOKĖWĖXĖYĖZė WITH CURLĝRETROFLEX HOOKđTRESS AND HIGH TONEěLOW TONE",
  "đUPERSCRIPT HALF TRIANGULAR COLONĜTRIANGULAR COLONĐTRIANGULAR COLONđURNED COMMAĐUNASPIRATED",
  "đP ARROWHEADēTACKđSĐVERTICAL LINEđOICINGĐYANG DEPARTING TONE MARKđIN DEPARTING TONE MARK",
  "ăULO TWO SUMĂNEY BAGĆWITH WINGSą-MOUTH FACEăGOLIAN BIRGAď WITH DOUBLE ORNAMENTĕORNAMENTĊCOLON",
  "ČMMAĊDIGIT EIGHTĐFIVEđOURĐNINEĐONEĐSEVENđIXĐTHREEđWOĐZEROċOUBLE BIRGA WITH ORNAMENTĊELLIPSIS",
  "ĊFOUR DOTSċREE VARIATION SELECTOR FOURĢONEĢTHREEģWOċULL STOPĊINVERTED BIRGA",
  "Ę WITH DOUBLE ORNAMENTĊLETTER AĒLI GALI AěHěNUSVARA ONEĚBALUDAĚCAĚDAĜGALGAĜMARUěDAĚHALF UğYAĚI",
  "ěNVERTED UBADAMAĚKAĚNGAěNAĚPAěHAĚSSAĚTAěHREE BALUDAěTAĜHAĚUBADAMAĚVISARGA ONEĚZAěHAĒNGđBAđCHA",
  "Ĕ WITH TWO DOTSēIđDAđEĒEđFAđGAđHAAđIđJAđKAĒHAđLAĒHAđMAēNCHU ALI GALI BHAġCAĢYAġDDHAĢHAġGHAġJHA",
  "ġLHAġNGAġSSAġTAĢTAġZAĢHAĘFAĘIĘKAĘRAĘZHAđNAđOĒEđPAđQAđRAđSAĒHAĒIBE ANGĖCHAĖDAĖEĖFAĖGAĘAĖHAĘAĖI",
  "ėYĖJAĖKAĖPAĖRAAĖSHAĖTAėSAĖUėEĖZAėHAđTAĒODO ALI GALI TAğZHAėNGĖBAĖCHAĖDAėZAĖEĖGAĘAĖHAAĖIĖJAėIA",
  "ĖKAĖLONG VOWEL SIGNĖMAĖNIAĖOėEĖPAĖQAĖTAėSAĖUėEĖWAĖYAĒSAđUĒEđWAđYAđZAĒHIĒRAĊMANCHU COMMA",
  "đFULL STOPĊNIRUGUĊROTATED BIRGAė WITH DOUBLE ORNAMENTĝORNAMENTĊSIBE SYLLABLE BOUNDARY MARKER",
  "ċWIRL BIRGAĕ WITH DOUBLE ORNAMENTěORNAMENTĊTODO SOFT HYPHENċRIPLE BIRGA WITH ORNAMENT",
  "ċURNED SWIRL BIRGA WITH DOUBLE ORNAMENTĊVOWEL SEPARATORăKEYĆ FACEăOGRAM FOR EARTHčYANGĎINĄRAIL",
  "ĄSTABLE SYMBOLĂOD BUBBLEăN CAKEąVIEWING CEREMONYĂSQUEąITOĂTHER CHRISTMASăOR BOATĆSCOOTER",
  "ąIZED WHEELCHAIRąWAYĂUNT FUJIąAINĈ BICYCLISTĉCABLEWAYĉRAILWAYăSEą FACEĆTRAPăTHĂVIE CAMERAĂYAI",
  "āRO DANDAąIGIT EIGHTĊFIVEċOURĊNINEĊONEĊSEVENċIXĊTHREEċWOĊZEROąOUBLE DANDAĄLETTER AċBAċCHUċDAčI",
  "ċEČAċHAIčOċKEAAEČHAIČOċLAčNċMAEMČIMċNGIČINċOČLČOċPAČHIċRIČOċSHIċTAČEKČHEAċWAċYO",
  "āUCH GREATER-THANąLESS-THANĂLTANI LETTER AďBAĐHAďCAĐHAďDAĐDAđDAđHAĐHAďEďGAĐHAďHAďIďJAĐJAďKAĐHA",
  "ďLAďMAďNAĐNAĐYAďPAĐHAďRAĐHAĐRAďSAďTAĐHAĐTAđHAďUďVAďYAĈSECTION MARKĄIMAPąPLE MUSICAL NOTES",
  "ćICATION SIGNē IN DOUBLE CIRCLEėLEFT HALF CIRCLEėRIGHT HALF CIRCLEėTRIANGLEĔWITH DOT ABOVE",
  "ęUNDERBARďXąSETĈ MULTIPLICATIONĉUNIONĂSHROOMăIC FLAT SIGNĆNATURAL SIGNĆSHARP SIGNąAL KEYBOARD",
  "Đ WITH JACKSĈNOTEĈSCOREĉYMBOL ARPEGGIATO DOWNĚUPďBEGIN BEAMĕPHRASEĕSLURĕTIEĐRACEēKETđEATH MARK",
  "ĒVEēISĕ RESTďC CLEFĐAESURAĐIRCLE X NOTEHEADĐLIMACUSĒVISđUSTER NOTEHEAD BLACKĠWHITEĐODA",
  "đMBINING ACCENTğ-STACCATOĚUGMENTATION DOTęBENDęDOITěUBLE TONGUEěWN BOWęFLAG-1Ğ2Ğ3Ğ4Ğ5ěIP",
  "ęHARMONICęLOUREęMARCATOĠ-STACCATOęRIPęSMEARĚNAP PIZZICATOĚPRECHGESANG STEMĚTACCATISSIMOĠOěEM",
  "ęTENUTOĚREMOLO-1ġ2ġ3ěIPLE TONGUEęUP BOWĒMON TIMEĐRESCENDOđOIXĐUT TIMEďDA CAPOđL SEGNOđMPē ALL",
  "đSHED BARLINEĐECRESCENDOđGREE SLASHĐOUBLE BARLINEĖFLATĖSHARPĐRUM CLEF-1ę2ďEIGHTH NOTEĖREST",
  "ĐND BEAMēOF STIMMEēPHRASEēSLURēTIEďF CLEFĕ OTTAVA ALTAĝBASSAĐERMATAĖ BELOWĐINAL BARLINE",
  "ĒGERED TREMOLO-1Ġ2Ġ3đVE-LINE STAFFĐLAT DOWNĔUPĐORTEđUR-LINE STAFFĔSTRING FRETBOARDĐUSA BLACK",
  "ĔWHITEďG CLEFĕ OTTAVA ALTAĝBASSAĐLISSANDO DOWNęUPĐRACE NOTE NO SLASHĚSLASHđEGORIAN C CLEF",
  "ęF CLEFďHALF NOTEĔPEDAL MARKĔRESTđUPTSTIMMEďINVERTED TURNďKIEVAN C CLEFĖEIGHTH NOTE STEM DOWN",
  "ħUPėND OF PIECEĖFINAL NOTEėLAT SIGNĖHALF NOTEĖQUARTER NOTE STEM DOWNĨUPĖRECITATIVE MARK",
  "ĖWHOLE NOTEĐORONďLEFT REPEAT SIGNĐONGAĔ IMPERFECTA RESTĕPERFECTA RESTďMAXIMAĐEZZOĐINIMAĕ BLACK",
  "ĖRESTĐOON NOTEHEAD BLACKĝWHITEĐULTI RESTĔPLE MEASURE RESTďNATURAL DOWNėUPĐEBENSTIMME",
  "ĐOTEHEAD BLACKĐULL NOTEHEADďONE HUNDRED TWENTY-EIGHTH NOTEĩRESTĒ-LINE STAFFĐRNAMENT STROKE-1Ġ0",
  "Ġ1ğ2ğ3ğ4ğ5ğ6ğ7ğ8ğ9ĐTTAVA ALTAĖBASSAďPARENTHESIS NOTEHEADĐEDAL MARKĕUP MARKđS SUBPUNCTISĐIANO",
  "ĐLUS NOTEHEADĐODATUSđRRECTUSĘ FLEXUSďQUARTER NOTEėRESTėTONE FLATĜSHARPđINDICESIMA ALTAĜBASSA",
  "ďREPEAT DOTSĕED FIGURE-1ğ2ğ3đVERSE FINAL BARLINEĐIGHT REPEAT SIGNđNFORZANDOďSCANDICUSĘ FLEXUS",
  "ĐEGNOđMIBREVIS BLACKĚRESTĚWHITEēMINIMA BLACKĚRESTĚWHITEĐHARP DOWNĕUPđORT BARLINEĐINGLE BARLINE",
  "đX-LINE STAFFēSTRING FRETBOARDĒTEENTH NOTEęRESTēY-FOURTH NOTEĜRESTĐORIĐQUARE BĖNOTEHEAD BLACK",
  "ğWHITEĐUBITOďTEMPUS IMPERFECTUM CUM PROLATIONE IMPERFECTAĻ DIMINUTION-1Ň2Ň3ıPERFECTA",
  "ĖPERFECTUM CUM PROLATIONE IMPERFECTAįPERFECTAķ DIMINUTION-1ĐHIRTY-SECOND NOTEĝREST",
  "đREE-LINE STAFFĐORCULUSė RESUPINUSĐRđIANGLE NOTEHEAD DOWN BLACKĦWHITEġLEFT BLACKĦWHITE",
  "ġRIGHT BLACKħWHITEġUP BLACKĤRIGHT BLACKĪWHITEĤWHITEė-ROUND NOTEHEAD DOWN BLACKĬWHITEĐURN",
  "ē SLASHĔUPĐWO-LINE STAFFďVIRGAĐOID NOTEHEADďWHOLE NOTEĕRESTĐITH FINGERNAILSďX NOTEHEADďZāVSāW",
  "āYANMAR CONSONANT SIGN MEDIAL HAĞRAĞWAĞYAĘON MEDIAL LAĢMAĢNAėSHAN MEDIAL WAĈDIGIT EIGHTĎFIVE",
  "ďOURĎNINEĎONEĎSEVENďIXĎTHREEďWOĎZEROĈLETTER AĐITON RAĐUďBAĐHAďCAĐHAďDAĐDAđHAĐHAďE",
  "ĐASTERN PWO KAREN GHWAġNNAġYWAďGAĐHAĐREAT SAďHAďIĐIďJAĐHAďKAĐHAĒMTI CAėHAĖDDAĘHAėHAĖFAĖGAĖHA",
  "ėHAĖJAėHAĖLLAĖNAėYAĖRAĖSAĖTTAĘHAĖXAĖZAďLAĐLAďMAĐON BBAĕEēEēJHAēNGAďNAĐGAĐNAđYAĐYAďOďPAĐHAďRA",
  "ĐUMAI PALAUNG FAďSAĐGAW KAREN SHAĐHAĒN AĔBAĕHAĔCAĕHAĔDAĔFAĔGAĕHAĔHAĔJHAĔKAĕHAĔNAĕNAĕYAĔPHAĔTHA",
  "ĔZAđWE PALAUNG CHAĜSHAĐSAďTAđI LAING BAĚHAęDAĚDAěHAĚHAęFAęGAĚHAęJAĚHAęLLAęNNAĚYAĐHAĐTAđHAďUĐU",
  "ďVOCALIC LĘLėRĘRďWAĐESTERN PWO KAREN PWAġTHAďYAĉOGOGRAM KHAMTI HMĘOAYĘQN",
  "ĈMODIFIER LETTER KHAMTI REDUPLICATIONĘSHAN REDUPLICATIONĈSHAN DIGIT EIGHTēFIVEĔOURēNINEēONE",
  "ēSEVENĔIXēTHREEĔWOēZEROĉIGN ANUSVARAĎSATčDOT BELOWčKHAMTI TONE-1ę3čLITTLE SECTION",
  "čPAO KAREN TONEčRUMAI PALAUNG TONE-5čSECTIONĎHAN COUNCIL EMPHATIC TONEĚTONE-2ğ3ĒSAWĒTONE-2ė3ė5",
  "ė6čTAI LAING TONE-2Ĝ5čVIRAMAďSARGAčWESTERN PWO KAREN TONE-1Ĥ2Ĥ3Ĥ4Ĥ5ĉYMBOL AFOREMENTIONED",
  "ĐITON EXCLAMATIONĕONEĕTWOďCOMPLETEDďGENITIVEďLOCATIVEďSHAN EXCLAMATIONĔONE",
  "ĈTAI LAING DIGIT EIGHTĘFIVEęOURĘNINEĘONEĘSEVENęIXĘTHREEęWOĘZEROĉONE MARK SGAW KAREN HATHI",
  "ĝKE PHOĈVOWEL SIGN AAĔIĕTON AĚIēEĔ ABOVEēGEBA KAREN IēIĔIēKAYAH EEęOEęUēMON IIėOēSGAW KAREN EU",
  "ĔHAN AAĘEę ABOVEĘFINAL YēTALL AAēUĔUēVOCALIC LĜLěRĜRēWESTERN PWO KAREN EUĥUE",
  "ĀN-ARY CIRCLED DOT OPERATORĎPLUS OPERATORĎTIMES OPERATORćOPRODUCTĆINTERSECTIONĆLOGICAL ANDĎOR",
  "ĆPRODUCTĆSQUARE INTERSECTION OPERATORčUNION OPERATORćUMMATIONĆTIMES OPERATORĆUNION",
  "ċ OPERATOR WITH DOTĚPLUSĆWHITE VERTICAL BARāABATAEAN CRUCIFORM NUMBER FOURĊLETTER ALEPHĒYIN",
  "đBETHđDALETHđFINAL ALEPHėBETHėHEėKAPHėLAMEDHėMEMėNUNėSHINėYODHđGIMELđHEēTHđKAPHđLAMEDHđMEMđNUN",
  "đPEđQOPHđRESHđSADHEēMEKHĒHINđTAWĒETHđWAWđYODHđZAYINĊNUMBER FIVEĒOURđONEĔ HUNDREDđTENĒHREE",
  "ĒWENTYēOăLAĂIL POLISHăRA SIGNĂKĂME BADGEĂNDĄINAGARI HEADSTROKEČLETTER AĔAĔIĔUēBAĔHAēCAĔHAēDA",
  "ĔDAĕHAĔHAēEēGAĔHAēHAēIĔIēJAĔHAēKAĔHAēLAĔLAēMAēNAĔGAĔNAĔYAēOēPAĔHAēRAĔRAēSAĔHAĔSAēTAĔHAĔTAĕHAēU",
  "ĔUēVAĔOCALIC RĜRēYAČSIGN ANUSVARAĒVAGRAHAđSIDDHAMđVIRAMAēSARGAČVOWEL SIGN AAĘIĘUėEėIĘIėO",
  "ėPRISHTHAMATRA EėUĘUėVOCALIC RĠRĂRROW NO-BREAK SPACEĂTIONAL DIGIT SHAPESĉPARKĂUSEATED FACE",
  "ĂZAR AMULETāBHĂSPāECKTIEĂGATED DOUBLE VERTICAL BAR DOUBLE RIGHT TURNSTILEąIVE ACKNOWLEDGE",
  "ĉCIRCLED DIGIT ZEROđLATIN CAPITAL LETTER AĦBĦCĦDĦEĦFĦGĦHĦIĦJĦKĦLĦMĦNĦOĦPĦQĦRĦSĦTĦUĦVĦWĦXĦYĦZ",
  "đNUMBER EIGHTEENęLEVENĘFIFTEENęOURTEENĘNINETEENĘSEVENTEENęIXTEENĘTHIRTEENęWELVEěNTYđSQUARE",
  "đTRIANGLEĉDIAGONAL CROSSĒDIAMONDĒMIDDLE RIGHT TO LOWER CENTREĉSQUARED ABđCROSS MARKđIC",
  "đLATIN CAPITAL LETTER AĦBĦCĦDĦEĦFĦGĦHĦIĦJĦKĦLĦMĦNĦOĦPĦQĦRĦSĦTĦUĦVĦWĦXĦYĦZđPAđQUESTION MARKđSA",
  "đWCĂITHER A SUBSET OF NOR EQUAL TOČPERSET OF NOR EQUAL TOĉPPROXIMATELY NOR ACTUALLY EQUAL TO",
  "ĈGREATER-THAN NOR EQUAL TOĜIVALENT TOęLESS-THANĈLESS-THAN NOR EQUAL TOęIVALENT TOĖGREATER-THAN",
  "ĂLĂPTUNEć FORM TWOĂRD FACEĂSSUSăT WITH EGGSĄING DOLLSĂUTERĄRAL CHESS BISHOP",
  "Ĕ ROTATED NINETY DEGREESĝTWO HUNDRED SEVENTY DEGREESĎEQUIHOPPERĘ ROTATED NINETY DEGREESĎKING",
  "Ē ROTATED NINETY DEGREESěTWO HUNDRED SEVENTY DEGREESďNIGHTĔ ROTATED FORTY-FIVE DEGREES",
  "ĝNINETY DEGREESĝONE HUNDRED THIRTY-FIVE DEGREESĝTHREE HUNDRED FIFTEEN DEGREES",
  "ĞWO HUNDRED SEVENTY DEGREESĩTWENTY-FIVE DEGREESĎPAWNĒ ROTATED NINETY DEGREES",
  "ěTWO HUNDRED SEVENTY DEGREESĎQUEENē ROTATED NINETY DEGREESĜTWO HUNDRED SEVENTY DEGREESĎROOK",
  "Ē ROTATED NINETY DEGREESěTWO HUNDRED SEVENTY DEGREESĎTURNED BISHOPĕKINGĖNIGHTĕPAWNĕQUEENĕROOK",
  "ĈFACEĂW LINEĄMOON SYMBOLĉWITH FACEĄSHEQEL SIGNĄTAI LUE DIGIT EIGHTĒFIVEēOURĒNINEĒONEĒSEVENēIX",
  "ĒTHREEēWOĒZEROČLETTER FINAL BęDęKęMęNĚGęVēHIGH BAĘDAĘFAĘHAĘKAęVAĘLAĘMAĘNAęGAĘPAęHAĘQAĘSAęUAĘTA",
  "ęHAęSAĘVAĘXAęVAĘYAēLOW BAėDAėFAėHAėKAĘVAėLAėMAėNAĘGAėPAĘHAėQAėSAĘUAėTAĘHAĘSAėVAėXAĘVAėYA",
  "ČSIGN LAEĔVČTHAM DIGIT ONEčONE MARK-1Ė2ČVOWEL SIGN AAęYĘEĘYėEėIIĘYėOĘAęYĘYėUĘEęYĘUĘY",
  "ėVOWEL SHORTENERăA ABBREVIATION SIGNąCOMMAąDANDAĆIGIT EIGHTċFIVEČOURċNINEċONEċSEVENČIXċTHREE",
  "ČWOċZEROĆOUBLE COMMAČDANDAąGAP FILLERąINSERTION SIGNąLETTER AčAčIčUČBAčHAČCAčHAČDAčDAĎHAčHAČE",
  "ČGAčHAČHAČIčIČJAčHAČKAčHAČLAčHAČMAčHAČNAčGAĎHAčHAčNAčYAĎHAČOČPAčHAČRAčHAČSAčHAčSAČTAčHAčTAĎHA",
  "ČUčUČVEDIC ANUSVARAčOCALIC LĕLĔRĕRČWAČYAąOMąPLACEHOLDER MARKąSANDHI MARKĆIDDHIćGN ANUSVARA",
  "ċVAGRAHAĊCANDRABINDUĊFINAL ANUSVARAĊJIHVAMULIYAĊNUKTAĊUPADHMANIYAĊVIRAMAČSARGAąVOWEL SIGN AAđI",
  "đUĐEĐIđIĐOĐUđUĐVOCALIC LęLĘRęRăLINE LEFTĈRIGHTăSPAPERĂXT LINEąPAGEāIGHT WITH STARSĂNJA",
  "āKO COMBINING DOUBLE DOT ABOVEĎLONG DESCENDING TONEēHIGH TONEēLOW TONEēRISING TONE",
  "ĎNASALIZATION MARKĎSHORT HIGH TONEĔLOW TONEĔRISING TONEćMAĄDANTAYALANąIGIT EIGHTĊFIVEċOURĊNINE",
  "ĊONEĊSEVENċIXĊTHREEċWOĊZEROąOROME SIGNĄEXCLAMATION MARKĄHIGH TONE APOSTROPHEĄLAJANYALAN",
  "ąETTER AċBAċCHAċDAčGBASINNAċEČEċFAċGBAċHAċIċJAČONA CHAĐJAĐRAċKAċLAċMAċNČAč WOLOSOČYAĎ WOLOSOċO",
  "ČOċPAċRAČRAċSAċTAċUċWAċYAąOW TONE APOSTROPHEĄSYMBOL GBAKURUNENċOO DENNENĄTAMAN SIGNāLāNBSP",
  "āO BICYCLESĄREAK HEREăENTRYĈ SIGNăMOBILE PHONESăONE UNDER EIGHTEEN SYMBOLăPEDESTRIANSĄIRACY",
  "ăSMOKING SYMBOLĂ-BREAK SPACEĂMINAL DIGIT SHAPESĄSMA SIGNĂN-BREAKING HYPHEN",
  "ĄPOTABLE WATER SYMBOLăFORKINGĂRăDIC MARK SIGNăMAL SUBGROUP OFĒ OR EQUAL TO",
  "ăTH EAST AND SOUTH WEST ARROWČRROWĐ AND SOUTH EAST ARROWđCROSSING NORTH WEST ARROW",
  "ĚSOUTH EAST ARROWđWITH HOOKċBLACK ARROWċDOUBLE ARROWċPOINTING BUDĔLEAFĔVINE LEAF",
  "ċSANS-SERIF ARROWċTRIANGLE-HEADED ARROWĠ TO BARċWHITE ARROWĆINDIC FRACTION ONE EIGHTHęHALF",
  "ęQUARTERęSIXTEENTHĕTHREE QUARTERSěSIXTEENTHSČPLACEHOLDER MARKČQUANTITY MARKďRTER MARK",
  "ČRUPEE MARKĆWEST AND SOUTH EAST ARROWČRROWĐ AND NORTH EAST ARROWđCROSSING NORTH EAST ARROW",
  "đTO CORNERĔLONG BARđWITH HOOKċBLACK ARROWċDOUBLE ARROWċPOINTING BUDĔLEAFĔVINE LEAF",
  "ċSANS-SERIF ARROWċTRIANGLE-HEADED ARROWĠ TO BARċWHITE ARROWąEAST-POINTING AIRPLANEĂSE",
  "ĂT A SUBSET OFĈPERSET OFąLMOST EQUAL TOąN ELEMENT OFąSYMPTOTICALLY EQUAL TOĄCHECK MARK",
  "ĄEQUAL TOćIVALENT TOĄGREATER-THANĄIDENTICAL TOĄLESS-THANĄNORMAL SUBGROUP OFĖ OR EQUAL TO",
  "ĄPARALLEL TOĄSIGNąQUARE IMAGE OF OR EQUAL TOċORIGINAL OF OR EQUAL TOĄTILDEąRUE",
  "ăCHED LEFT SEMICIRCLE WITH THREE DOTSĉOWER RIGHT-SHADOWED WHITE RIGHTWARDS ARROW",
  "ĈRIGHT SEMICIRCLE WITH THREE DOTSĈUPPER RIGHT-SHADOWED WHITE RIGHTWARDS ARROWăEĄ PADćGEĄBOOK",
  "Ĉ WITH DECORATIVE COVERāULăLĂMBER EIGHTEEN FULL STOPĈLEVEN FULL STOPćFIFTEEN FULL STOP",
  "ĈOURTEEN FULL STOPćNINETEEN FULL STOPćSEVENTEEN FULL STOPĈIGNĉXTEEN FULL STOPćTEN FULL STOP",
  "ĈHIRTEEN FULL STOPĈWELVE FULL STOPĊNTY FULL STOPăERO SIGNĂSHU CHARACTER-1B170Ĕ1Ĕ2Ĕ3Ĕ4Ĕ5Ĕ6Ĕ7Ĕ8",
  "Ĕ9ĔAĔBĔCĔDĔEĔFē80Ĕ1Ĕ2Ĕ3Ĕ4Ĕ5Ĕ6Ĕ7Ĕ8Ĕ9ĔAĔBĔCĔDĔEĔFē90Ĕ1Ĕ2Ĕ3Ĕ4Ĕ5Ĕ6Ĕ7Ĕ8Ĕ9ĔAĔBĔCĔDĔEĔFēA0Ĕ1Ĕ2Ĕ3Ĕ4Ĕ5",
  "Ĕ6Ĕ7Ĕ8Ĕ9ĔAĔBĔCĔDĔEĔFēB0Ĕ1Ĕ2Ĕ3Ĕ4Ĕ5Ĕ6Ĕ7Ĕ8Ĕ9ĔAĔBĔCĔDĔEĔFēC0Ĕ1Ĕ2Ĕ3Ĕ4Ĕ5Ĕ6Ĕ7Ĕ8Ĕ9ĔAĔBĔCĔDĔEĔFēD0Ĕ1Ĕ2",
  "Ĕ3Ĕ4Ĕ5Ĕ6Ĕ7Ĕ8Ĕ9ĔAĔBĔCĔDĔEĔFēE0Ĕ1Ĕ2Ĕ3Ĕ4Ĕ5Ĕ6Ĕ7Ĕ8Ĕ9ĔAĔBĔCĔDĔEĔFēF0Ĕ1Ĕ2Ĕ3Ĕ4Ĕ5Ĕ6Ĕ7Ĕ8Ĕ9ĔAĔBĔCĔDĔEĔF",
  "Ē200Ĕ1Ĕ2Ĕ3Ĕ4Ĕ5Ĕ6Ĕ7Ĕ8Ĕ9ĔAĔBĔCĔDĔEĔFē10Ĕ1Ĕ2Ĕ3Ĕ4Ĕ5Ĕ6Ĕ7Ĕ8Ĕ9ĔAĔBĔCĔDĔEĔFē20Ĕ1Ĕ2Ĕ3Ĕ4Ĕ5Ĕ6Ĕ7Ĕ8Ĕ9ĔAĔBĔC",
  "ĔDĔEĔFē30Ĕ1Ĕ2Ĕ3Ĕ4Ĕ5Ĕ6Ĕ7Ĕ8Ĕ9ĔAĔBĔCĔDĔEĔFē40Ĕ1Ĕ2Ĕ3Ĕ4Ĕ5Ĕ6Ĕ7Ĕ8Ĕ9ĔAĔBĔCĔDĔEĔFē50Ĕ1Ĕ2Ĕ3Ĕ4Ĕ5Ĕ6Ĕ7Ĕ8Ĕ9",
  "ĔAĔBĔCĔDĔEĔFē60Ĕ1Ĕ2Ĕ3Ĕ4Ĕ5Ĕ6Ĕ7Ĕ8Ĕ9ĔAĔBĔCĔDĔEĔFē70Ĕ1Ĕ2Ĕ3Ĕ4Ĕ5Ĕ6Ĕ7Ĕ8Ĕ9ĔAĔBĔCĔDĔEĔFē80Ĕ1Ĕ2Ĕ3Ĕ4Ĕ5Ĕ6",
  "Ĕ7Ĕ8Ĕ9ĔAĔBĔCĔDĔEĔFē90Ĕ1Ĕ2Ĕ3Ĕ4Ĕ5Ĕ6Ĕ7Ĕ8Ĕ9ĔAĔBĔCĔDĔEĔFēA0Ĕ1Ĕ2Ĕ3Ĕ4Ĕ5Ĕ6Ĕ7Ĕ8Ĕ9ĔAĔBĔCĔDĔEĔFēB0Ĕ1Ĕ2Ĕ3",
  "Ĕ4Ĕ5Ĕ6Ĕ7Ĕ8Ĕ9ĔAĔBĔCĔDĔEĔFēC0Ĕ1Ĕ2Ĕ3Ĕ4Ĕ5Ĕ6Ĕ7Ĕ8Ĕ9ĔAĔBĔCĔDĔEĔFēD0Ĕ1Ĕ2Ĕ3Ĕ4Ĕ5Ĕ6Ĕ7Ĕ8Ĕ9ĔAĔBĔCĔDĔEĔFēE0",
  "Ĕ1Ĕ2Ĕ3Ĕ4Ĕ5Ĕ6Ĕ7Ĕ8Ĕ9ĔAĔBĔCĔDĔEĔFēF0Ĕ1Ĕ2Ĕ3Ĕ4Ĕ5Ĕ6Ĕ7Ĕ8Ĕ9ĔAĔBĆITERATION MARKĂT AND BOLT",
  "āYIAKENG PUACHUE HMONG CIRCLED CAėDIGIT EIGHTĝFIVEĞOURĝNINEĝONEĝSEVENĞIXĝTHREEĞWOĝZERO",
  "ėLETTER AğAĞCAĞDAğLAĞEğEĞFAĞGAĞHAĠHĞIĞKAĞLAĞMAğLAĞNAğCAğKAğPAĠLAğQAğRAğTAĠSAĠXAğYAĞOğOĞPAğLA",
  "ĞQAĞRAğRAĞSAĞTAğSAğXAĞUĞVAĞWĞXAğYAĞYAĞZAĘOGOGRAM NYAJėSIGN FOR ANIMALĠINVERTEBRATEĠLOCATION",
  "ĠPERSONĠTHINGĜXW XWĘYLLABLE LENGTHENERėTONE-BĜDĜGĜJĜMĜSĜVĀOBJECT REPLACEMENT CHARACTER",
  "ĂLIQUE ANGLE OPENING DOWNĖUPĈHYPHENĂSERVER EYE SYMBOLāCR AMOUNT OF CHECKĄBELT BUCKLEąOW TIE",
  "ąRANCH BANK IDENTIFICATIONĄCHAIRąUSTOMER ACCOUNT NUMBERĄDASHąOUBLE BACKSLASHĄFORKĄHOOK",
  "ĄINVERTED FORKĂTAGONAL SIGNăOPUSāDENāFFICE BUILDINGāGHAM FEATHER MARKĆLETTER AILMčBEITHčCEIRT",
  "ĎOLLčDAIRčEABHADHďDHADHďMHANCHOLLčFEARNčGORTčIFINĎODHADHčLUISčMUINčNGEADALĎIONčONNĎRčPEITH",
  "čRUISčSAILĎTRAIFčTINNEčUATHĎILLEANNĎRĆREVERSED FEATHER MARKĆSPACE MARKĂONEKāHM SIGNāIL DRUM",
  "āK HAND SIGNāL CHIKI AHADĉDIGIT EIGHTďFIVEĐOURďNINEďONEďSEVENĐIXďTHREEĐWOďZERO",
  "ĉGAAHLAA TTUDDAAGĉLETTER AAJĒKĒMĒWđGđLđNGđTĐEDDđNđPđRRĐIHđNYđRđSĐLAĒAđEđIđOđUĐOBđHđTTđVĐUCđD",
  "đNNđYĉMU TTUDDAGċ-GAAHLAA TTUDDAAGĉPHAARKAAĊUNCTUATION DOUBLE MUCAADĕMUCAADĉRELAA",
  "ĂD CHINESE HOOK MARKČITERATION MARKĄHUNGARIAN CAPITAL LETTER AĞAĞKĞMBĞNDĝCLOSE EĝEĞBĞCğHğSĞDĞE",
  "ĞFĞGğYĞHĞJĞKĞLğYĞMğPĞNğCğTĠ-SHAPED SIGNğYĞPĞRĞSğZĞTğYĞVĞZğSĝIĞIĝNIKOLSBURG OEĨUEĝOĞEEĞO",
  "ĝRUDIMENTA OEħUEĝSHORT ERĝUĞNKĞSĞUĎNUMBER FIFTYėVEĕONEĘ HUNDREDęTHOUSANDĕTENĎSMALL LETTER AĜA",
  "ĜKĜMBĜNDěCLOSE EěEĜBĜCĝHĝSĜDĜEĜFĜGĝYĜHĜJĜKĜLĝYĜMĝPĜNĝCĝTĞ-SHAPED SIGNĝYĜPĜRĜSĝZĜTĝYĜVĜZĝSěIĜI",
  "ěNIKOLSBURG OEĦUEěOĜEEĜOěRUDIMENTA OEĥUEěSHORT ERěUĜNKĜSĜUĄITALIC LETTER AĒBEĒCHEĒDEĒEēFēKSēL",
  "ēMēNēRĔSēSĔHĔSĒHEĒIēIĒKAēEēHEēUĒNORTHERN TSEĒOĒPEēHEĒSHEēOUTHERN TSEĒTEēHEĒUēUĒVEĒYEĒZE",
  "ċNUMERAL FIFTYĕVEēONEēTENĄKEYĄNORTH ARABIAN LETTER AINĚLEFęBEHęDADěLęES-1Ĝ2Ĝ3ęFEHęGEEMĚHAIN",
  "ęHAHĚEHęKAFĚHAHęLAMęMEEMęNOONęQAFęREHęSADęTAHĚEHĚHALěEHęWAWęYEHęZAHěINĒNUMBER ONEęTENĚWENTY",
  "ĄPERMIC LETTER ANĒBURĒCHERYĒDOIēZHOIĔITAĒEēFĒGAIĒHAĒIēAēEĒKOKEĒLEIĒMENOEĒNENOEĒOēOĒPEEIĒREI",
  "ĒSHCHOOIĔOOIēIIĒTAIēSIUĒUĒVERēOOIĒYAĔTēERĕIĕUēRYēUĒZATAēHOIćSIAN NUMBER HUNDREDēONEēTENĔWENTY",
  "ĕOČSIGN AĒURAMAZDAAě-2ěHAđBAēGAĒUUMISHđCAđDAēHYAAUSHĚ-2ĒIĒUđFAđGAĒUđHAđIđJAĒIđKAĒUđLAđMAĒIĒU",
  "đNAĒUđPAđRAĒUđSAĒHAĒSAđTAĒHAĒUđUđVAĒIđXAĒSHAAYATHIYAđYAđZAČWORD DIVIDERĈONAL COMPUTER",
  "ĄSOGDIAN FRACTION ONE HALFČLETTER ALEPHĕTERNATE AYINĔYINēBETHēFINAL ALEPHęBETHęHEęNUN",
  "Ĝ WITH VERTICAL TAILęSADHEĞ WITH VERTICAL TAILęTAWĜ WITH VERTICAL TAILēGIMELēHEĕTHēKAPHēLAMEDH",
  "ēMEMēNUNēPEēRESH-AYIN-DALETHēSADHEĕMEKHĔHINēTAWēWAWēYODHēZAYINčIGATURE AYIN-DALETHČNUMBER FIVE",
  "ĔOURēONEĖ HUNDREDēTENĔHIRTYĕREEĔWENTYĕOĆUTH ARABIAN LETTER ALEFĚYNęBETHęDALETHĚHADHEĜLETHęFE",
  "ęGHAYNĚIMELęHEěTHęKAPHĚHETHęLAMEDHęMEMęNUNęQOPHęRESHęSADHEěMEKHěTĚHINęTAWĚETHĚHAWěETHęWAWęYODH",
  "ęZAYNĒNUMBER FIFTYęONEĕERIC INDICATORĄTURKIC LETTER ORKHON AĚBĚDĚEBěDěGěKěLěNěRěSěTěYĚGĚLĚNĚQ",
  "ĚRĚSěHĚTĚYęBASHęECĚLTĚMĚNCěGěTěYĚPĚSHĚZęIĚCĚQęOĚEěKĚPĚQĚTĒYENISEI AěBěDěEĜBĜGĜKĜNĝGĜTĜYěGěLěNG",
  "ěQěRěSHěTěYĚEěCěNCĜTĜYěSHěZĚIěQĚOEĜKěQĄUYGHUR COMBINING DOT ABOVEęBELOWĕTWO DOTS ABOVEĞBELOW",
  "ċLETTER ALEPHĒBETHĒFINAL HETHĒGIMEL-HETHĒKAPHĒLAMEDHēESHĒMEMĒNUNĒPEĒRESHĒSADHEĔMEKHēHINĒTAW",
  "ĒWAWĒYODHĒZAYINċPUNCTUATION BARėFOUR DOTSėTWO BARSěDOTSăER ADULTĆMANĆWOMANĂIVEāM SYMBOL",
  "āN WITH EXCLAMATION MARK WITH LEFT RIGHT ARROW ABOVEĂCOMING AUTOMOBILEĉBUSĉFIRE ENGINE",
  "ĉPOLICE CARĉTAXIĂE BUTTON MOUSEĄDOT LEADERĈOVER TWO DOTS PUNCTUATIONă-PIECE SWIMSUITĂION",
  "āPEN BOOKćXąCENTRE ASTERISKČBLACK STARČCROSSČTEARDROP-SPOKED ASTERISKąFILE FOLDERĆOLDER",
  "ąHANDS SIGNąLOCKąMAILBOX WITH LOWERED FLAGĒRAISED FLAGąSUBSETćPERSET",
  "Ą-CIRCUIT-OUTPUT H-TYPE SYMBOLĔL-TYPE SYMBOLąOUTLINED RIGHTWARDS ARROWăRATING SYSTEM COMMAND",
  "ĂHIUCHUSĂPOSITIONĂTICAL DISCČ ICONĄON KEYāR WITH DOT INSIDEĂANGE BOOKćHEARTąUTANĂIGINAL OF",
  "ăYA AI LENGTH MARKćU LENGTH MARKĆDIGIT EIGHTČFIVEčOURČNINEČONEČSEVENčIXČTHREEčWOČZERO",
  "ĆFRACTION ONE EIGHTHēHALFēQUARTERēSIXTEENTHďTHREE QUARTERSĕSIXTEENTHSĆISSHARĆLETTER AĎAĎIĎUčBA",
  "ĎHAčCAĎHAčDAĎDAďHAĎHAčEčGAĎHAčHAčIĎIčJAĎHAčKAĎHAčLAĎLAčMAčNAĎGAĎNAĎYAčOčPAĎHAčRAĎHAĎRAčSAĎHA",
  "ĎSAčTAĎHAĎTAďHAčUĎUčVAĎOCALIC LĖLĕRĖRčWAčYAĎYAĆSIGN ANUSVARAČVAGRAHAċCANDRABINDUċNUKTA",
  "ċOVERLINEċVIRAMAčSARGAĆVOWEL SIGN AAĒIĒUđEđIĒIđOđUĒUđVOCALIC LĚLęRĚRĂNATE LEFT PARENTHESIS",
  "ćRIGHT PARENTHESISĂTHODOX CROSSāSAGE CAPITAL LETTER AĖHĖIėNĕBRAĕCHAĕDHAĕEĖHCHAėKAėPAėTAĘSAĖIN",
  "ĕGHAĕHAĖYAĕIĕKAĖHAĖYAĕLAĕMAĕNAĕOĖINĕPAĕSAĖHAĕTAĖSAėHAĕUĕWAĕZAĖHAĆSMALL LETTER AĔHĔIĕNēBRAēCHA",
  "ēDHAēEĔHCHAĕKAĕPAĕTAĖSAĔINēGHAēHAĔYAēIēKAĔHAĔYAēLAēMAēNAēOĔINēPAēSAĔHAēTAĔSAĕHAēUēWAēZAĔHAĂC",
  "ĂMANYA DIGIT EIGHTĎFIVEďOURĎNINEĎONEĎSEVENďIXĎTHREEďWOĎZEROĈLETTER AĐAĐLEFďBAďCAYNďDEELĐHAďEĐE",
  "ďFAďGAďHAďIďJAďKAAFĐHAďLAANďMIINďNUUNďOĐOďQAAFďRAďSAĐHIINďTAďUďWAWďXAďYAāTTER",
  "ăOMAN SIYAQ ALTERNATE NUMBER EIGHTğFIVEĠOURģ HUNDREDğNINEğSEVENĠIXĢ HUNDREDğTENĢ THOUSANDĠHREE",
  "ĠWOĢ THOUSANDĎFRACTION ONE HALFěSIXTHĎMARRATANĎNUMBER EIGHTĚ HUNDREDěTHOUSANDĚYě THOUSAND",
  "ĕFIFTYĚ THOUSANDėVEę HUNDREDĚTHOUSANDĖORTYĚ THOUSANDėURę HUNDREDĚTHOUSANDĕNINEę HUNDRED",
  "ĚTHOUSANDęTYě THOUSANDĕONEĘ HUNDREDęTHOUSANDĕSEVENĚ HUNDREDěTHOUSANDĚTYĜ THOUSANDĖIXĘ HUNDRED",
  "ęTHOUSANDĘTYĚ THOUSANDĕTENĘ THOUSANDĖHIRTYě THOUSANDėREEĚ HUNDREDěTHOUSANDĖWENTYě THOUSANDėO",
  "Ę HUNDREDęTHOUSANDāUNCE SIGNĂTBOX TRAYăLINED BLACK STARĉGREEK CROSSĉLATIN CROSSĉWHITE STAR",
  "āVERHEATED FACEĄLAPćPING BLACK SQUARESČWHITE AND BLACK SQUARESĒSQUARESąINEāWLāXāYSTERĀPACKAGE",
  "ĂDăDING CHARACTERĂGEĄ FACING UPąWITH CIRCLED TEXTċURLĄRĄSăODAĂHAWH HMONG CLAN SIGN FAJėHAMęWJ",
  "ėKHABĘOOĘWMėLAUJĘISėMUASėPHABėTHOJĘSABęHEEJęWBėVAJĘWJėXYOOJėYAJĘEEGĎONSONANT AUėCAUĘHAUėHAU",
  "ĘLAUĘNAUėLAUėMAUėNAUĘCHAUĘKAUĘLAUĘTHAUęSAUėPLHAUėQHAUėRAUėVAUėXAUėYAUčDIGIT EIGHTēFIVEĔOUR",
  "ēNINEēONEēSEVENĔIXēTHREEĔWOēZEROčMARK CIM HOMĖKESėHAVĖSOėUAMĖTAUMėUBčNUMBER HUNDRED MILLIONSěS",
  "ĔMILLIONSĔTEN BILLIONSĘTHOUSANDSėSĕRILLIONSčSIGN AVĒCIM CHEEMėUAM TSHOOJĖHAIS LUS NTOG NTOG",
  "ĖNRES TOSĖPUB DAWBĖTSOV ROGėXWVĚ CHWVĒHLIēNUBĒIB YAMĒLOSĒMEEJ SUABėTSEEBēUSĒNQIGēTUJĒTAU",
  "ēHIRD-STAGE HLIēXHEEJ CEEVĒVOS FEEMĖLUBĖNRUAĖSEEVĖTHIABĘOMėSHAB CEEBĒXAUSēIABēYEEM FAIBĘNTXIV",
  "ĘRHOĘTOVĔOOĒZWJ THAJčVOWEL KAABĖVĕBĕIBĖVĕUBĖVĕVĕWBĖVĔEBĕEBĖVĕVĔIABĖVĕBĕVĔOBĕOBĖVĕVĔUABĖVĕBĕV",
  "ĔWBĕVĂLLASăM BRANCHąDOWN HANDąTREEąUP HANDĄS UP TOGETHERĄYRENE LEFT-POINTING FLEURON",
  "ČTTER ALEPHĒYINđBETHđDALETHđFINAL NUNđGIMELđHEēTHđKAPHđLAMEDHđMEMđNUNđPEđQOPHđRESHđSADHEēMEKH",
  "ĒHINđTAWĒETHđWAWđYODHđZAYINĊNUMBER FIVEĒOURđONEđTENĒHREEĒWENTYēOĊRIGHT-POINTING FLEURONĂNCAKES",
  "ăDA FACEĂPERCLIPĂRACHUTEĄGRAPH SEPARATORĉOSĉUS MARKĄLLEL TOĉWITH HORIZONTAL STROKE",
  "ĎTILDE OPERATORăENTHESIZED DIGIT EIGHTĔFIVEĕOURĔNINEĔONEĔSEVENĕIXĔTHREEĕWOĎHANGUL CHIEUCHĜ A",
  "ĖIEUCĚ AěUĕHIEUHĚ AĕIEUNGĚ AĕKHIEUKHĜ AĖIYEOKě AĕMIEUMĚ AĕNIEUNĚ AĕPHIEUPHĜ AĖIEUPĚ AĕRIEULĚ A",
  "ĕSIOSę AĕTHIEUTHĜ AĖIKEUTě AĎIDEOGRAPH ALLIANCEĘCALLęONGRATULATIONĘEARTHęIGHTęNTERPRISE",
  "ĘFESTIVALęINANCIALĚREĚVEęOURĘHAVEĘLABORĘMETALęOONĘNAMEęINEĘONEĘREACHĚPRESENTĚSOURCEěTĘSELFĚVEN",
  "ęIXęOCIETYęPECIALęTOCKĚUDYęUNĚPERVISEĘTENęHREEęWOĘWATERęOODĎKOREAN CHARACTER O HUĠJEON",
  "ĎLATIN CAPITAL LETTER AģBģCģDģEģFģGģHģIģJģKģLģMģNģOģPģQģRģSģTģUģVģWģXģYģZĔSMALL LETTER AġBġCġD",
  "ġEġFġGġHġIġJġKġLġMġNġOġPġQġRġSġTġUġVġWġXġYġZĎNUMBER EIGHTEENĖLEVENĕFIFTEENĖOURTEENĕNINETEEN",
  "ĕSEVENTEENĖIXTEENĕTENĖHIRTEENĖWELVEĘNTYăROTăT ALTERNATION MARKĄIAL DIFFERENTIALĈLINE BACKWARD",
  "čDOWNčFORWARDčUPćLY-RECYCLED PAPER SYMBOLĄNERSHIP SIGNĄY POPPERĂSSED SYMBOLąNGER SHIP",
  "ĄIVE-PULL-DOWN-OUTPUT SYMBOLčUP-OUTPUT SYMBOLĄPORT CONTROLĂU CIN HAU GLOTTAL STOPĘ FINAL",
  "ęVARIANTČLETTER AēBAēCAĔHAēDAēEēFAĔINAL KęLęMęNĚGęPęTęWęYēGAēHAēIĔAēKAĔHAēLAēMAēNAĔGAēOēPAĔHA",
  "ēRAēSAēTAĔHAēUĔAēVAēZAčOW-FALLING TONEĜ FINALĝLONGġ FINALČMID-LEVEL TONEĚ FINALěLONG FINAL",
  "ČRISING TONEė FINALĘLONGĜ FINALČSANDHI GLOTTAL STOPğ FINALēTONEė FINALĘLONGĜ FINALĂW PRINTSāDF",
  "ĂIāEACE SYMBOLĄHĄOCKăNUTSăRĂDESTRIANĂN OVER STAMPED ENVELOPEăCILăGUINăSIVE FACEăTAGRAM",
  "ĂOPLE HUGGINGĂR MILLE SIGNĄSIGNĄTEN THOUSAND SIGNăCENT SIGNăFORMING ARTSăMANENT PAPER SIGN",
  "ăPENDICULARč WITH SăSEVERING FACEĄON BOWING DEEPLYćCLIMBINGćDOING CARTWHEELćFROWNING",
  "ćIN LOTUS POSITIONĊSTEAMY ROOMćRAISING BOTH HANDS IN CELEBRATIONćWITH BALLčLOND HAIRČCROWN",
  "ČFOLDED HANDSČHEADSCARFČPOUTING FACEĆAL COMPUTERĄPECTIVEĂSETA SIGNăO SIGNĂTRI DISH",
  "āHAGS-PA DOUBLE HEAD MARKĉLETTER AđLTERNATE YAđSPIRATED FAĐBAĐCAĒNDRABINDUđHAĐDAđDAđZAĐEđEĐFA",
  "ĐGAđGAĐHAĐIĐJAĐKAđHAĐLAĐMAĐNAđGAđNAđYAĐOĐPAđHAĐQAĐRAĐSAđHAđMALL AĐTAđHAđSAĒHAđTAĒHAĐU",
  "ĐVOICED HAĕLESS SHAĐWAĐXAĐYAĐZAđHAĉMARK DOUBLE SHADĎSHADĉSINGLE HEAD MARKĊUBJOINED LETTER RA",
  "ĚWAĚYAċPERFIXED LETTER RAăISTOS DISC SIGN ARROWēBEEĖHIVEĔOOMERANGĕWĔULLS LEGēCAPTIVE",
  "ĕRPENTRY PLANEĕTĔHILDĔLUBĔOLUMNĕMBėINING OBLIQUE STROKEēDOLIUMĕVEēEAGLEēFLUTEēGAUNTLETĔRATER",
  "ēHELMETĔIDEĔORNēLIDĕLYēMANACLESĕTTOCKēOX BACKēPAPYRUSĔEDESTRIANĔLANE TREEĕUMED HEADēRAMĔOSETTE",
  "ēSAWĔHIELDĖPĔLINGĔMALL AXEĔTRAINERēTATTOOED HEADĔIARAĔUNNYēVINEēWAVY BANDĔOMAN",
  "ĂILIPPINE DOUBLE PUNCTUATIONċSINGLE PUNCTUATIONĂOENICIAN LETTER AINēLFĒBETĒDELTĒGAMLĒHEĔTĒKAF",
  "ĒLAMDĒMEMĒNUNĒPEĒQOFĒROSHĒSADEēEMKēHINĒTAUēETĒWAUĒYODĒZAIċNUMBER ONEĕ HUNDREDĒTENēHREEēWENTYĔO",
  "ċWORD SEPARATORăLUSāICKĄUP TRUCKĂEĂGă FACEĄNOSEĂLCROW SIGNăE OF POOăLĂNATAăCHED FINGERS",
  "ąING HANDăE DECORATIONĄAPPLEăWHEEL STARĂSCESăTOLĂTCHFORKĉ WITH TEE TOPāLACARD",
  "ĄE OF INTEREST SIGNĉWORSHIPăNCK CONSTANTď OVER TWO PIăYGROUND SLIDEĄING CARD ACE OF CLUBS",
  "ĔDIAMONDSĔHEARTSĔSPADESčBACKĎLACK JOKERčEIGHT OF CLUBSĖDIAMONDSĖHEARTSĖSPADESčFIVE OF CLUBS",
  "ĕDIAMONDSĕHEARTSĕSPADESĎOOLďUR OF CLUBSĕDIAMONDSĕHEARTSĕSPADESčJACK OF CLUBSĕDIAMONDSĕHEARTS",
  "ĕSPADESčKING OF CLUBSĕDIAMONDSĕHEARTSĕSPADESĎNIGHT OF CLUBSėDIAMONDSėHEARTSėSPADES",
  "čNINE OF CLUBSĕDIAMONDSĕHEARTSĕSPADESčQUEEN OF CLUBSĖDIAMONDSĖHEARTSĖSPADESčRED JOKER",
  "čSEVEN OF CLUBSĖDIAMONDSĖHEARTSĖSPADESĎIX OF CLUBSĔDIAMONDSĔHEARTSĔSPADESčTEN OF CLUBS",
  "ĔDIAMONDSĔHEARTSĔSPADESĎHREE OF CLUBSĖDIAMONDSĖHEARTSĖSPADESĎRUMP-1Ĕ0Ĕ1Ĕ2Ĕ3Ĕ4Ĕ5Ĕ6Ĕ7Ĕ8Ĕ9ē2Ĕ0Ĕ1",
  "ē3ē4ē5ē6ē7ē8ē9ĎWO OF CLUBSĔDIAMONDSĔHEARTSĔSPADESčWHITE JOKERĂDĂUăNGERăS SIGN",
  "ĉ ABOVE EQUALS SIGNĊIN LEFT HALF CIRCLEčRIGHT HALF CIRCLEčTRIANGLEĊWITH BLACK TRIANGLE",
  "ďCIRCUMFLEX ACCENT ABOVEďDOT BELOWďSMALL CIRCLE ABOVEĐUBSCRIPT TWOďTILDE ABOVEĕBELOW",
  "Ą-MINUS SIGNăTOą FORM FIVEČOURċTHREEČWOāMāOCKET CALCULATORĂLICE CARĊS REVOLVING LIGHTćOFFICER",
  "ĂODLEĂP DIRECTIONAL FORMATTINGĐISOLATEăCORNĂRTABLE STEREOĂSEIDONăITION INDICATORăTAL HORNćMARK",
  "ċ FACEĄBOXĂT OF FOODăABLE WATER SYMBOLĄTOăTED PLANTĂUCHăLTRY LEGăND SIGNăRING LIQUID",
  "ăTING CAT FACEĈFACEĂWER ON SYMBOLĈ-OFF SYMBOLĆSLEEP SYMBOLćYMBOLāRAYER BEADSĂECEDES",
  "Ĉ ABOVE ALMOST EQUAL TOďEQUALS SIGNďNOT ALMOST EQUAL TOēEQUAL TOďSINGLE-LINE EQUALS SIGN",
  "ěNOT EQUAL TOĉBUT NOT EQUIVALENT TOĉOR EQUAL TOďIVALENT TOĉUNDER RELATIONăGNANT MANĉPERSON",
  "ĉWOMANăSCRIPTION TAKEĄENTATION FORM FOR VERTICAL COLONġMMAğEM DASHĠN DASHĠXCLAMATION MARK",
  "ğHORIZONTAL ELLIPSISğIDEOGRAPHIC COMMAīFULL STOPğLEFT ANGLE BRACKETĤBLACK LENTICULAR BRACKET",
  "ĤCORNER BRACKETĥURLY BRACKETĤDOUBLE ANGLE BRACKETĤPARENTHESISĤSQUARE BRACKET",
  "ĤTORTOISE SHELL BRACKETĤWHITE CORNER BRACKETĪLENTICULAR BRACKETĠOW LINEğQUESTION MARK",
  "ğRIGHT ANGLE BRACKETĥBLACK LENTICULAR BRACKETĥCORNER BRACKETĦURLY BRACKETĥDOUBLE ANGLE BRACKET",
  "ĥPARENTHESISĥSQUARE BRACKETĥTORTOISE SHELL BRACKETĥWHITE CORNER BRACKETīLENTICULAR BRACKET",
  "ĹKCETğSEMICOLONğTWO DOT LEADERğWAVY LOW LINEăTZELăVIOUS PAGEĂIMEăNCEĆSSĄT SCREEN SYMBOLąER",
  "ć ICONăVACY MESSAGEąTE USE ONEČTWOċ-1Č2ĂOBING CANEăHIBITED SIGNăJECTIVEăPERTY LINEĄORTION",
  "ĊAL TOăSERPINAāSALTER PAHLAVI FOUR DOTS WITH CROSSğDOTĐLETTER ALEPHėBETHėDALETHėGIMELėHEęTH",
  "ėKAPHėLAMEDHėMEM-QOPHėNUNėPEėSADHEęMEKHĘHINėTAWėWAW-AYIN-RESHėYODHėZAYINĐNUMBER FOURėONE",
  "Ě HUNDREDėTENĘHREEĘWENTYęOĐSECTION MARKĐTURNED SECTION MARKāU1Ă2ĂBLIC ADDRESS LOUDSPEAKER",
  "ĂNCTUATION SPACEĆS ELEVATUS MARKĂRPLE HEARTăSEĂSHPINĂT LITTER IN ITS PLACE SYMBOL",
  "ĀQUADRANT LOWER LEFTďRIGHTĉUPPER LEFTē AND LOWER LEFT AND LOWER RIGHTĞRIGHT",
  "ĘUPPER RIGHT AND LOWER LEFTĮRIGHTďRIGHTĔ AND LOWER LEFTģ AND LOWER RIGHT",
  "ąUPLE INTEGRAL OPERATORĊPRIMEăRTER NOTEăTERNION INTEGRAL OPERATORĂESTION EXCLAMATION MARKĉMARK",
  "ĈED EQUAL TOĂINCUNXĂOTATION MARKĀRABBITĆ FACEĂCCOONăING CARćMOTORCYCLEĂDICAL SYMBOL BOTTOMĄO",
  "ą BUTTONąACTIVE SIGNĂILWAY CARĈTRACKăNĄBOWăSED BACK OF HANDćCOMMAćDOTĊTED INTERPOLATION MARKER",
  "ćFISTćHANDċ WITH FINGERS SPLAYEDđPART BETWEEN MIDDLE AND RING FINGERSćINTERPOLATION MARKER",
  "ćMC SIGNĈD SIGNĈR SIGNćSQUAREĂMĂTăIOĂZORāECEIPTăORD SEPARATORăREATIONAL VEHICLE",
  "ăYCLED PAPER SYMBOLĆING SYMBOL FOR GENERIC MATERIALSĕTYPE-1 PLASTICSĚ2 PLASTICSĚ3 PLASTICS",
  "Ě4 PLASTICSĚ5 PLASTICSĚ6 PLASTICSĚ7 PLASTICSĂD APPLEĄGIFT ENVELOPEĂFERENCE MARK",
  "ĂGIONAL INDICATOR SYMBOL LETTER AġBġCġDġEġFġGġHġIġJġKġLġMġNġOġPġQġRġSġTġUġVġWġXġYġZ",
  "ĄSTERED SIGNĂJANG CONSONANT SIGN HĖNėGĖRćLETTER AĎBAĎCAĎDAĎGAĎHAĎJAĎKAĎLAĎMAďBAĎNAďDAďGAĐGAďYA",
  "ĐJAĎPAĎRAĎSAĎTAĎWAĎYAćSECTION MARKćVIRAMAĈOWEL SIGN AIēUĒEēAēUĒIĒOĒUĂLIEVED FACEĂMINDER RIBBON",
  "ĂPLACEMENT CHARACTERĂSPONSEăTRICTED LEFT ENTRY-1Ė2ąOOMĂTURN LEFTćRIGHTćSYMBOL",
  "ĂVERSE CHECKER BOARDĈINDEXĈLIGHT FOUR POINTED PINWHEEL STARĊNE FEEDĈSOLIDUSď OPERATOR",
  "ĐPRECEDING SUBSETĐWITH HORIZONTAL STROKEĈTILDE OPERATOR ABOVE LEFTWARDS ARROWĝRIGHTWARDS ARROW",
  "ćD ANGLEĎ WITH UNDERBARĉCOMMAĉDOUBLE PRIMEĕ QUOTATION MARKĐSTROKE NOT SIGNĉEMPTY SET",
  "ĉFORKED PARAGRAPHOSĉHAND WITH MIDDLE FINGER EXTENDEDĉNOT SIGNĉPILCROW SIGNĊRIMEĉQUESTION MARK",
  "ĉRAISED HAND WITH FINGERS SPLAYEDĊIGHT ANGLEĊOTATED FLORAL HEART BULLETĉSANS-SERIF CAPITAL L",
  "ĊEMICOLONĉTHUMBS DOWN SIGNĐUP SIGNĊILDEĎ EQUALSĊRIPLE PRIMEĉVICTORY HANDăOLVING HEARTS",
  "āHINOCEROSāIĂAL SIGNĂBBONĆ ARROW DOWN LEFTĒRIGHTčLEFT DOWNĒUPčRIGHT DOWNēUPčUP LEFTĐRIGHT",
  "ĂCE BALLąCRACKERĂFLEĂGHT AND LOWER ONE EIGHTH BLOCKĊUPPER ONE EIGHTH BLOCKĈGER BUBBLEĉLE",
  "ċ BRACKETē WITH DOTČDOTTED SUBSTITUTION MARKERČSUBSTITUTION MARKERČVARIANT WITH SQUARE",
  "ČWITH ARCđDOWNWARDS ZIGZAG ARROWćRC GREATER-THAN BRACKETĈROW WITH CIRCLED PLUSđSMALL CIRCLE",
  "ĆBLACK LENTICULAR BRACKETČTORTOISE SHELL BRACKETĆCEILINGćORNER BRACKETćURLY BRACKET",
  "ē LOWER HOOKĔMIDDLE PIECEĔUPPER HOOKĆDOTTED SUBSTITUTION BRACKETĈUBLE ANGLE BRACKET",
  "ĎRROW WITH ROUNDED HEADčPARENTHESISčQUOTATION MARKčWIGGLY FENCEĆFISH TAILĈVE EIGHTHS BLOCK",
  "ćLOORĆHALF BLACK CIRCLEđSTARčOCKċFOLDERċMEDIUM SHADEċRUNNING MANĈND TELEPHONE RECEIVER",
  "ĆLOW PARAPHRASE BRACKETĆNORMAL FACTOR SEMIDIRECT PRODUCTĆONE EIGHTH BLOCKĊQUARTER BLOCK",
  "ćPEN SQUARED DOTćUTER JOINĆPARENTHESISđ EXTENSIONĒLOWER HOOKĒUPPER HOOK",
  "ĆRAISED OMISSION BRACKETĆS-SHAPED BAG DELIMITERćEMIDIRECT PRODUCTĈVEN EIGHTHS BLOCK",
  "ćIDEWAYS U BRACKETĈNGLE QUOTATION MARKćPEAKERč WITH ONE SOUND WAVEēTHREE SOUND WAVES",
  "ĉECH BUBBLEćQUARE BRACKETĔ EXTENSIONĕLOWER CORNERĕUPPER CORNERĕWITH DOUBLE STROKEĚQUILLĚSTROKE",
  "ĚTICK IN BOTTOM CORNERĢTOP CORNERĚUNDERBARćUBSTITUTION BRACKETĆTACK",
  "ćHIRD WHITE RIGHT POINTING INDEXĈOUGHT BUBBLEĈREE EIGHTHS BLOCKČQUARTERS BLOCK",
  "ćORTOISE SHELL BRACKETćRANSPOSITION BRACKETĈIANGLEĎ ABOVE LEFT TRIANGLEČULAR ONE QUARTER BLOCK",
  "ĆVERTICAL BAR WITH QUILLĐOX LINEĆWHITE CORNER BRACKETčURLY BRACKETČLENTICULAR BRACKET",
  "ČPARENTHESISČSQUARE BRACKETČTORTOISE SHELL BRACKETćIGGLY FENCEą-FACING ARMENIAN ETERNITY SIGN",
  "čFISTčSVASTI SIGNĘ WITH DOTSĆHANDED INTERLACED PENTAGRAMĆPOINTING ANGLE BRACKET",
  "ďCURVED ANGLE BRACKETďDOUBLE ANGLE QUOTATION MARKďMAGNIFYING GLASS",
  "ĆSHADED WHITE RIGHTWARDS ARROWćIDE ARC CLOCKWISE ARROWĆTO-LEFT EMBEDDINGĎISOLATEĎMARKĎOVERRIDE",
  "ąHAND INTERIOR PRODUCTąWARDS ARROWĐ ABOVE ALMOST EQUAL TOėREVERSE ALMOST EQUAL TO",
  "ğTILDE OPERATORėSHORT LEFTWARDS ARROWėTILDE OPERATORĒND UPPER AND LOWER ONE EIGHTH BLOCK",
  "đFROM BARę TO BLACK DIAMONDđOVER LEFTWARDS ARROWđTHROUGH GREATER-THANęSUPERSETęXĒO BAR",
  "ĕLACK DIAMONDđWITH CORNER DOWNWARDSĖDOTTED STEMĘUBLE VERTICAL STROKEĖEQUILATERAL ARROWHEAD",
  "ĖHOOKĖLARGE TRIANGLE ARROWHEADėOOPĖMEDIUM TRIANGLE ARROWHEADĖNOTCHED TAILĖPLUS BELOW",
  "ĖSMALL EQUILATERAL ARROWHEADĜTRIANGLE ARROWHEADėTROKEĖTAILĚ WITH DOUBLE VERTICAL STROKE",
  "ĠVERTICAL STROKEėIP DOWNWARDSĚUPWARDSĖVERTICAL STROKEĐ-TAILċBACK-TILTED SHADOWED WHITE ARROW",
  "ČLACK ARROWđCIRCLED WHITE ARROWČOTTOM SHADED WHITE ARROWċCOMPRESSED ARROWċDASHED ARROW",
  "ČOUBLE ARROWė FROM BARĘWITH STROKEĝVERTICAL STROKEė-TAILĒDASH ARROWċFINGER-POST ARROW",
  "ČRONT-TILTED SHADOWED WHITE ARROWċHANDčRPOON OVER LEFTWARDS HARPOON",
  "ēWITH BARB DOWN ABOVE LEFTWARDS HARPOON WITH BARB DOWNĢBELOW LONG DASHĢFROM BARĢTO BARġWARDS",
  "ĝUP ABOVE LEFTWARDS HARPOON WITH BARB UPħONG DASHĦRIGHTWARDS HARPOON WITH BARB DOWNĠFROM BAR",
  "ĠTO BARğWARDSČEAVY ARROWđCOMPRESSED ARROWċLEFT-SHADED WHITE ARROWċOPEN-HEADED ARROW",
  "ċPAIRED ARROWSċQUADRUPLE ARROWċRIGHT-SHADED WHITE ARROWČOCKETċSANS-SERIF ARROWČQUARED ARROW",
  "ĎIGGLE ARROWċTOP SHADED WHITE ARROWČRIANGLE ARROWHEADē-HEADED ARROW",
  "Ġ OVER LEFTWARDS TRIANGLE-HEADED ARROWġTO BARġWITH BOLD SHAFTĦDOUBLE HORIZONTAL STROKE",
  "ĭVERTICAL STROKEĦHEAVY SHAFTĦLONG TIP DOWNWARDSįUPWARDSĦMEDIUM SHAFTĦNARROW SHAFT",
  "ĦVERY HEAVY SHAFTěDASHED ARROWěPAIRED ARROWSĎPLE ARROWĒDASH ARROWČWO HEADED ARROW",
  "Ď-HEADED ARROW FROM BARĜWITH DOUBLE VERTICAL STROKEġTAILĥ WITH DOUBLE VERTICAL STROKE",
  "īVERTICAL STROKEĢRIANGLE ARROWHEADSġVERTICAL STROKEĖTRIPLE DASH ARROWċWAVE ARROWČHITE ARROW",
  "Ė FROM WALLėWITHIN TRIANGLE ARROWHEADĂNGĄ ABOVEąBUOYąEQUAL TOąIN EQUAL TOąOPERATORąPOINT",
  "ĄED PLANETĄING BELLĂSING DIAGONAL CROSSING FALLING DIAGONALęSOUTH EAST ARROWāLEĂIĂMĂO",
  "āOASTED SWEET POTATOĂBOT FACEĂCKĄETĂLL OF PAPERĄED-UP NEWSPAPERąR COASTERćSKATE",
  "ĄING ON THE FLOOR LAUGHINGĂMAN AS SIGNĆCENTURIAL SIGNĆDENARIUS SIGNćIMIDIA SEXTULA SIGN",
  "ćUPONDIUS SIGNĆNUMERAL EIGHTďLEVENĎFIFTYē EARLY FORMĔTHOUSANDĐVEĒ HUNDREDēTHOUSANDďOURĎNINE",
  "ĎONEđ HUNDREDę THOUSANDĒTHOUSANDĚ C DĎREVERSED ONE HUNDREDĎSEVENďIXđ LATE FORMĎTENđ THOUSAND",
  "ďHREEďWELVEĐOĆQUINARIUS SIGNĆSEMUNCIA SIGNĈSTERTIUS SIGNĈXTANS SIGNĊULA SIGNćILIQUA SIGN",
  "ĆUNCIA SIGNĂOSTERĂSEĄTTEĂTATED CAPITAL QĈFLORAL HEART BULLETĈHEAVY BLACK HEART BULLET",
  "ĈLIGHT FOUR POINTED BLACK CUSPĈWHITE FOUR POINTED CUSPĂUND PUSHPINĆTARGETąED SYMBOL FOR CAIēFU",
  "ēLUēSHOUĕUANGXIēXIĂWBOATāSāUBLE SIGNĂGBY FOOTBALLĂLE-DELAYEDĂMI DIGIT EIGHTċFIVEČOURċNINEċONE",
  "ċSEVENČIXċTHREEČWOąFRACTION ONE HALFĒQUARTERĒTHIRDĎTWO THIRDSąNUMBER EIGHT HUNDREDđYČFIFTY",
  "ĎVE HUNDREDčORTYĎUR HUNDREDČNINE HUNDREDĐTYČONE HUNDREDČSEVEN HUNDREDđTYčIX HUNDREDďTYČTEN",
  "čHIRTYĎREE HUNDREDčWENTYĎO HUNDREDĂNIC ARLAUG SYMBOLĆBELGTHOR SYMBOLĆCROSS PUNCTUATION",
  "ĆLETTER AC AĎESCĎLGIZ EOLHXĎNSUZ AčBERKANAN BEORC BJARKAN BčCĎALCĎEALCďNĎWEORTHčDĎAGAZ DAEG D",
  "ĎOTTED-LĔNĔPčEĎARĎHWAZ EH EĎNGĎTHčFEHU FEOH FE FĎRANKS CASKET ACĜESCěEHěISěOSčGĎARĎEBO GYFU G",
  "ďRčHAEGL HďGLAZ HčICELANDIC-YRĎNGĐWAZĎORĎSAZ IS ISS IĎWAZ EOHčJERAN JčKĎAUN KđA",
  "čLAUKAZ LAGU LOGR LĎONG-BRANCH-AR AEęHAGALL HęMADR MęOSS OęYRčMANNAZ MAN MčNAUDIZ NYD NAUD NčO",
  "ĎEĎNĎOĎPEN-PĎS OĎTHALAN ETHEL OčPERTHO PEORTH PčQčRAIDO RAD REID RčSHďORT-TWIG-AR AĘBJARKAN B",
  "ĘHAGALL HĘMADR MĘNAUD NĘOSS OĘSOL SĘTYR TĘYRĎIGEL LONG-BRANCH-SOL SĎOWILO SĎTAN",
  "čTHURISAZ THURS THORNĎIWAZ TIR TYR TčURUZ UR UčVčWĎUNJO WYNN WčXčYĎRčZĆMULTIPLE PUNCTUATION",
  "ĆSINGLE PUNCTUATIONĆTVIMADUR SYMBOLăNERĄING SHIRT WITH SASHĂPEE SIGN",
  "ĂSSIAN ASTROLOGICAL SYMBOL BINOVILEĜNOVILEĜQUINTILEĜSENTAGONĜTREDECILEĜVIGINTILEĀS IN TRIANGLE",
  "āAFETY PINćVESTĂGITTARIUSĂILBOATĂKE BOTTLE AND CUPĂLT SHAKERĄIREăUTING FACE",
  "ĂMARITAN ABBREVIATION MARKĊLETTER ALAFđBAAĒITđDALATđFIđGAMANđINĒTĒYđKAAFđLABATđMIMđNUNđQUF",
  "đRISHđSHANĒINGAATđTAAFĒITĒSAADIYđYUTđZENĊMARK DAGESHďEPENTHETIC YUTďINđ-ALAFďNEQUDAAďOCCLUSION",
  "ċODIFIER LETTER EPENTHETIC YUTĚIĚSHORT AĊPUNCTUATION AFSAAQėNGEDĘNAAUėRKAANUėTMAAUĖBAU",
  "ĖMELODIC QITSAĖNEQUDAAĖQITSAĖSHIYYAALAAėOF MASHFAATĖTURUĖZAEFėIQAAĊVOWEL SIGN AĖAĕEĕIĕLONG AěA",
  "ĚEĚIĚUĕOĖVERLONG AğAĕSHORT AĖUKUNĕUĂNDWICHăS-SERIF HEAVY DOUBLE COMMA QUOTATION MARK ORNAMENT",
  "ĘTURNED COMMA QUOTATION MARK ORNAMENTđLOW DOUBLE COMMA QUOTATION MARK ORNAMENT",
  "ċINTERROBANG ORNAMENTĂRIĂTELLITEĉ ANTENNAăURNĂURASHTRA CONSONANT SIGN HAARUċDANDAČIGIT EIGHT",
  "đFIVEĒOURđNINEđONEđSEVENĒIXđTHREEĒWOđZEROČOUBLE DANDAċLETTER AēAēIēUĒBAēHAĒCAēHAĒDAēDAĔHAēHAĒE",
  "ēEĒGAēHAĒHAĒIēIĒJAēHAĒKAēHAĒLAēLAĒMAĒNAēGAēNAēYAĒOēOĒPAēHAĒRAĒSAēHAēSAĒTAēHAēTAĔHAĒUēUĒVA",
  "ēOCALIC LěLĚRěRĒYAċSIGN ANUSVARAĐCANDRABINDUĐVIRAMAĒSARGAċVOWEL SIGN AAėIėUĖEėEĖIėIĖOėOĖUėU",
  "ĖVOCALIC LğLĞRğRĄOPODĂXOPHONEāCALESăRFĂHOOLĆ SATCHELĂIĂOOTERăRPIONĆUSĂREENĄWDRIVER",
  "ăIPT CAPITAL BďEďFďHďIďLďMďPďRćLIGATURE ET ORNAMENTćSMALL EčGčLčOăOLLăUPLEāEALăT",
  "ĂCOND PLACE MEDALăTION SIGNĄORĂDNAĂE-NO-EVIL MONKEYăDLINGĂGMENTćED DIGIT EIGHTĐFIVEđOURĐNINE",
  "ĐONEĐSEVENđIXĐTHREEđWOĐZEROĂLFIEĂMICOLONĄDIRECT PRODUCT WITH BOTTOM CLOSEDĄSEXTILE",
  "ĂPARATED SYMBOLĂRIOUS FACE WITH SYMBOLS COVERING MOUTHăVICE MARKĂSAME DOTăQUIQUADRATEĂT MINUS",
  "ĄTRANSMIT STATEĂWING NEEDLEĂXTILEāGCāHADOWED WHITE CIRCLEďLATIN CROSSďSTARăLLOW PAN OF FOOD",
  "ăMROCKăRADA ABBREVIATION SIGNĈCONTINUATION SIGNĈDANDAĉIGIT EIGHTĎFIVEďOURĎNINEĎONEĎSEVENďIX",
  "ĎTHREEďWOĎZEROĉOUBLE DANDAĈEKAMĉXTRA SHORT VOWEL MARKĈHEADSTROKEĈLETTER AĐAĐIĐUďBAĐHAďCAĐHAďDA",
  "ĐDAđHAĐHAďEďGAĐHAďHAďIĐIďJAĐHAďKAĐHAďLAĐLAďMAďNAĐGAĐNAĐYAďOďPAĐHAďRAďSAĐHAĐSAďTAĐHAĐTAđHAďUĐU",
  "ďVAĐOCALIC LĘLėRĘRďYAĈOMĈSANDHI MARKĉECTION MARK-1ĕ2ĊPARATORĉIGN ANUSVARAĎVAGRAHAčCANDRABINDU",
  "čINVERTED CANDRABINDUčJIHVAMULIYAčNUKTAčSIDDHAMčUPADHMANIYAčVIRAMAďSARGAĉUTRA MARK",
  "ĈVOWEL MODIFIER MARKĎSIGN AAĔIĔUēEēIĔIēOēPRISHTHAMATRA EēUĔUēVOCALIC LĜLěRĜRĄKăVED ICE",
  "ĄIAN LETTER ADOĐGEĐHĐIRĐREđRAYĐSHĐWEďBIBďCHURCHďDEADďEARđTĐGGĐRRďFEEďGAGďHA-HAĐUNGďIANĐCEĐF",
  "ďJUDGEďKICKďLOLLďMEASUREĐIMEďNUNďOAKĐILĐNĐOZEĐRĐUTďPEEPďROARďSOĐUREďTHEYđIGHĐOTďUPďVOWďWOEđOL",
  "ďYEAđWďZOOĂEEPĂIELDăFT INĆOUTăNTO SHRINEăPĂOCKED FACE WITH EXPLODING HEADăOTING STAR",
  "ăPPING BAGSĉTROLLEYăRT BACKSLANTED SOUTH ARROWćENT ARROW POINTING DOWNWARDS THEN NORTH EAST",
  "ĆDOWN TACKď WITH OVERBARĆLEFT TACKĆRIGHTWARDS ARROW ABOVE LEFTWARDS ARROWĆSLANTED NORTH ARROW",
  "ĆUP TACKč ABOVE SHORT DOWN TACKĎWITH UNDERBARąCAKEąHAND FORMAT CONTINUING OVERLAPđDOWN STEP",
  "đLETTER OVERLAPđUP STEPąSăULDERED OPEN BOXăWERĂRIMPăUGĂUFFLE PRODUCTĂYāIĂDDHAM DANDA",
  "ĉOUBLE DANDAĈEND OF TEXT MARKĈLETTER AĐAĐIĐLTERNATE UĐUďBAĐHAďCAĐHAďDAĐDAđHAĐHAďEďGAĐHAďHAďIĐI",
  "ďJAĐHAďKAĐHAďLAďMAďNAĐGAĐNAĐYAďOďPAĐHAďRAďSAĐHAĐSAďTAĐHAđREE-CIRCLE ALTERNATE IĐTAđHA",
  "ĐWO-CIRCLE ALTERNATE IĥIďUĐUďVAĐOCALIC LĘLėRĘRďYAĈREPETITION MARK-1Ę2Ę3",
  "ĈSECTION MARK DOUBLE RINGĠ WITH RAYSĕWITH CIRCLES AND FOUR ENCLOSURESĦRAYSĦTWO ENCLOSURES",
  "ĚDOUBLE CRESCENTSĚQUADRUPLE CRESCENTSĚRAYS AND DOTTED CRESCENTSĪDOUBLE CRESCENTS",
  "ĪTRIPLE CRESCENTSĚSEPTUPLE CRESCENTSĚTRIDENT AND DOTTED CRESCENTSĦU-SHAPED ORNAMENTS",
  "ĝPLE CRESCENTSĊPARATOR BARĒDOTĉIGN ANUSVARAčCANDRABINDUčNUKTAčSIDDHAMčVIRAMAďSARGA",
  "ĈVOWEL SIGN AAĔIĔLTERNATE UĞUĔUēEēIĔIēOēUĔUēVOCALIC RĜRăEWAYS BLACK DOWN POINTING INDEX",
  "ďLEFT POINTING INDEXďRIGHT POINTING INDEXďUP POINTING INDEXĉWHITE DOWN POINTING INDEX",
  "ďLEFT POINTING INDEXďRIGHT POINTING INDEXďUP POINTING INDEXĂGN OF THE HORNS",
  "ĄWRITING AIR BLOW SMALL ROTATIONSĔING OUTĐSUCK SMALL ROTATIONSĔING INČBREATH EXHALEēINHALE",
  "ĎUSH BETWEENĒMULTIPLEĒSINGLEČCHEEKS NEUTRALēPUFFEDēSUCKEDčOLONĎMMA",
  "ČDREAMY EYEBROWS DOWN NEUTRALĜNEUTRAL DOWNĤUPĜUP NEUTRALčYNAMIC ARROWHEAD LARGEĞSMALL",
  "ĔEVERY OTHER TIMEĔFASTĔGRADUALĔRELAXEDĔSIMULTANEOUSĠ ALTERNATINGĕLOWĔTENSEČEARSčXCITEMENT",
  "čYE BLINK MULTIPLEĖSINGLEĐWINKďBROWS STRAIGHT DOWNĞNEUTRALĞUPďGAZE-FLOORPLANE CURVEDğSTRAIGHT",
  "ħ ALTERNATINGĨDOUBLEĔWALLPLANE CIRCLINGğURVEDĞSTRAIGHTĦ ALTERNATINGħDOUBLEďLASHES DOWN",
  "ĖFLUTTERINGĖUPďS CLOSEDđHALF CLOSEDĖOPENđOPENđSQUEEZEDđWIDE OPENĕNING MOVEMENT",
  "ČFACE DIRECTION POSITION NOSE FORWARD TILTINGĩUP OR DOWNĳ TILTINGčILL MODIFIER-2Ě3Ě4Ě5Ě6ĎNGER",
  "čLICK LARGE MULTIPLEĘSINGLEĒSEQUENTIALēMALL MULTIPLEĘSINGLEĎOORPLANE SHOULDER HIP MOVE",
  "čOREHEAD CONTACTĕNEUTRALĕWRINKLEDčULL STOPČGRASP BETWEENĒMULTIPLEĒSINGLEČHAIRĎND-ANGLEĖ INDEX",
  "Ĝ MIDDLE LITTLEĤRINGĝRING LITTLEĨ OUTĝTHUMBĢ INģOUTėLITTLE INDEXģ THUMB INDEX THUMBĵ OUTĞUP",
  "ėMIDDLE RING LITTLEĩ INĪOUTėRING DOWN MIDDLE THUMB INDEX CROSSĜLITTLEđCIRCLEė INDEXĝ BENT",
  "ĞHINGEĞMIDDLEĤ CROSS LITTLEĪEDĥLITTLEĥRINGĥTHUMBĞRING LITTLEĘLITTLE INDEXğUP",
  "ĘMIDDLE RING LITTLEĪ BENTğUPĘRING LITTLEĒLAWĕ FOUR FINGERS CONJOINED",
  "ĖINDEX THUMB CURVE THUMB INSIDEĖMIDDLE RING LITTLE CONJOINEDĲ SIDEĖNO THUMBĖTHUMB FORWARDĜSIDE",
  "ĒUPĔ FIVE FINGERS SPREADĨ OPENĕINDEXĚ RING LITTLEěTHUMBĠ OPENĕMIDDLE RING LITTLEĕNO THUMBĕOPEN",
  "ę NO THUMBĚTHUMB FORWARDĠSIDEĕTHUMB FORWARDěSIDEēRLICUEę INDEX RING LITTLE ON",
  "ĚMIDDLE RING LITTLE ONĚOPENđFISTĕ FOUR FINGERS CONJOINED BENTĖHEELĖINDEXě BENTĠ OVER MIDDLE",
  "ĜCUPPEDĜHINGEDĢ LOWģMIDDLE UPĬ THUMB SIDEĜMIDDLEĢ BENTħ THUMB STRAIGHTģCONJOINEDĬ CUPPED",
  "ĳ THUMB FORWARDĭHINGEDĳ THUMB SIDEĭINDEX BENTĭMIDDLE BENTĭTHUMB FORWARDĳSIDEķ BENTĸCONJOINED",
  "ĤROSS LITTLEĨEDĪ THUMB SIDEģHINGEDĩ SPREAD THUMB SIDEģLITTLEģRAISED KNUCKLESĤINGħ BENT",
  "ĨCONJOINEDģSTRAIGHT THUMB BENTģTHUMBĨ ANGLEDį OUTĩBENTĩCIRCLEDĪONJOINED HINGEDĪUPPEDĩHINGED",
  "ĪOOKEDģUP SPREAD THUMB FORWARDĜRAISED KNUCKLEĝING LITTLEĜTHUMB ANGLED IN MIDDLE UP",
  "ĩOUT MIDDLE UPĢCIRCLEĨD MIDDLE UPģUPPED MIDDLE UPĤRLICUEĥVE THUMB INSIDEĮUNDER",
  "ĢFORWARD INDEX BENTİSTRAIGHTĢHOOKĦED MIDDLE HINGEDİUPĢSIDEĦ BOTH BENTħINDEX BENTĭHINGE",
  "ħTHUMB BENTĭCONJOINEDĭDIAGONALĜUP MIDDLE HINGEDĬ THUMB CONJOINEDĳSIDEĖLITTLE BENTĝDOWN",
  "ġ OTHERS CIRCLEDĢRIPPLE CURVEDĩSTRAIGHTĝINDEXĢ THUMBĝRAISED KNUCKLEĝTHUMBĞOUCHES THUMBĝUP",
  "ĖMIDDLE BENT OVER INDEXĝDOWNĝLITTLEĝRAISED KNUCKLEĞING LITTLEĝTHUMB ANGLED INDEX UP",
  "ĪOUT INDEX CROSSEDĴUPģCIRCLED INDEX HINGEDıUPĤUPPED INDEX UPģHOOKED INDEX UPģLITTLEĝUP",
  "ğ THUMB SIDEĖRING DOWNěINDEXěLITTLEěMIDDLEġ CONJOINEDĢRAISED KNUCKLESěRAISED KNUCKLEěTHUMBěUP",
  "ĖTHUMBě BETWEEN INDEX MIDDLEİ STRAIGHTĤMIDDLE RINGĤRING LITTLEĜFORWARDĜHEEL",
  "ĜOVER FOUR RAISED KNUCKLESġTWO FINGERSĜSIDE BENTġCONJOINEDġDIAGONALĜUNDER FOUR FINGERS",
  "ĢINDEX BENTĢLITTLE UPĢTHREE FINGERSģWO FINGERSĒLATĕ BETWEEN PALM FACINGSĖFIVE FINGERS SPREAD",
  "ĩ BENTĪFOUR BENTĪHINGEDİ NO THUMBıTHUMB SIDEĪTHUMB FORWARDėOUR FINGERSĢ BENTģCONJOINEDĬ SPLIT",
  "ģHINGEDĖHEELĚ FIVE FINGERS SPREADĮ BENTįFOUR BENTěTHUMB SIDEĖSPLIT CENTREĢ THUMB SIDEĭ BENT",
  "ĜINDEX THUMB SIDEĜLITTLEĖTHUMB BENTĜFORWARDĜSIDEđHINGEĖ FIVE FINGERS SPREAD OPEN",
  "ĘOUR FINGERS CONJOINEDėINDEXĜ HINGEDĝMIDDLE LITTLEĤRINGĨ CONJOINEDĝRING LITTLEĝTHUMBĢ LARGE",
  "ģOPENģSIDEĤMALLėLITTLEĝ INDEXģ THUMBĞTHUMBėMIDDLEĝ RING LITTLEėNO THUMBėOPENě NO THUMB",
  "ĜTHUMB FORWARDĢSIDEėRINGě DOWN INDEX THUMB HOOK MIDDLEėSMALLėTHUMB BETWEEN MIDDLE RINGĝSIDE",
  "ġ TOUCHING INDEXĒOOKĕ CURLICUEĖINDEX RING LITTLE INĨOUTĨUNDERĖMIDDLE RING LITTLE CONJOINEDĲ IN",
  "ĳOUTĝTHUMBĖRING THUMBđOVALĕ FIVE FINGERS SPREADĖINDEXĖLITTLE UPĖNO THUMBĖRING LITTLE",
  "ĖTHUMB FORWARDĜSIDEčEADĐ MOVEMENT CIRCLEę-FLOORPLANE CURVEĥSTRAIGHTĚWALLPLANE CURVEĤSTRAIGHT",
  "ĤTILTđRIMČLIMB COMBINATIONđLENGTH-1Ę2Ę3Ę4Ę5Ę6Ę7ĎP LOWER OVER UPPERĐUPPER OVER LOWER",
  "ďS PRESSED TOGETHERčOCATION DEPTHĕHEAD NECKėIGHTĕLIMBS DIGITSĕTORSOĕWIDTHĔ-FLOORPLANE SPACE",
  "ĕWALLPLANE SPACEČMOUTH CLOSED CONTACTęFORWARDęNEUTRALēORNERSĒFROWNė OPENĘWRINKLEDĒKISS",
  "Ė FORWARDėWRINKLEDĒOPEN CIRCLEėFORWARDėOVALě WRINKLEDĜYAWNėRECTANGLEĠ WRINKLEDġYAWNėWRINKLED",
  "ĒSMILEė OPENĘWRINKLEDĒTENSEė FORWARDĘSUCKEDĒWRINKLES DOUBLEěSINGLEĎVEMENT-DIAGONAL AWAY LARGE",
  "ĨSTģMEDIUMģSMALLĞBETWEEN AWAY LARGEİSTīMEDIUMīSMALLĦTOWARDS LARGEĳSTĮMEDIUMĮSMALL",
  "ĞTOWARDS LARGEīSTĦMEDIUMĦSMALLĕFLOORPLANE ARM CIRCLE HITTING WALL LARGE DOUBLEľSINGLE",
  "ĸMEDIUM DOUBLEĿSINGLEĸSMALL DOUBLEľSINGLEĠBENDġOX LARGEĤMEDIUMĤSMALLĠCHECKġORNER LARGEħMEDIUM",
  "ħSMALLġROSSġURVE COMBINEDĦHITTING CEILING LARGEĶSMALLĮFLOOR LARGEĴSMALLĦLARGEīSTĦMEDIUMĦSMALL",
  "ĠDOUBLE ALTERNATINGĲ WRIST FLEXħSTRAIGHTħWRIST FLEXĠFINGER CIRCLES HITTING WALL DOUBLEļSINGLE",
  "ĨONTACTĠHUMP HITTING CEILING LARGE DOUBLEĻTRIPLEĵSMALL DOUBLEĻTRIPLEĭFLOOR LARGE DOUBLE",
  "ĳSMALL DOUBLEĳTRIPLE LARGE TRIPLEĺSMALL TRIPLEĥSMALLĠJAWĠLOOP HITTING CEILING LARGE DOUBLE",
  "ĻSINGLEĵSMALL DOUBLEĻSINGLEĭFLOOR LARGE DOUBLEĹSINGLEĳSMALL DOUBLEĹSINGLEĥSMALLĠPEAKS LARGE",
  "ĦMEDIUMĦSMALLĠSHAKING PARALLELġINGLE STRAIGHT LARGEĵSTİMEDIUMİSMALLħWRIST FLEX",
  "ĠTRIPLE ALTERNATING MOVEMENTĳWRIST FLEXħSTRAIGHT MOVEMENTħWRIST FLEX",
  "ĠWAVE HITTING CEILING LARGEĵSMALLĭFLOOR LARGEĳSMALLĥLARGEĥSMALLĦNAKE",
  "ġRIST CIRCLE HITTING WALL DOUBLEĺSINGLEĠZIGZAG LARGEħMEDIUMħSMALLĕHINGE DOWN SEQUENTIAL",
  "ěSIDE TO SIDE SCISSORSěUP DOWN ALTERNATING LARGEįSMALLģLARGEģSMALLĞSEQUENTIAL",
  "ĕWALLPLANE ARM CIRCLE MEDIUM DOUBLEıSINGLEĪSMALL DOUBLEİSINGLEğBEND LARGEĤMEDIUMĤSMALL",
  "ĠOX LARGEģMEDIUMģSMALLğCHECK LARGEĥMEDIUMĥSMALLĠORNER LARGEĦMEDIUMĦROTATIONĦSMALLĠROSS",
  "ĠURVE HALF-CIRCLE LARGEĶSTıMEDIUMıSMALLĦITTING CHESTĭFRONT WALLĥQUARTER LARGEĲSTĭMEDIUMĭSMALL",
  "ĥTHEN STRAIGHTħREE-QUARTER CIRCLE MEDIUMĺSMALLĤD CROSS MEDIUMĬSMALLğDOUBLE ALTERNATING",
  "ı WRIST FLEXĦSTRAIGHTĦWRIST FLEXğFINGER CIRCLES DOUBLEĮSINGLEħONTACTğHUMP HITTING CHEST",
  "ĬFRONT WALLĤLARGEĤMEDIUMĤSMALLğJAWğLOOP HITTING CHESTĬFRONT WALLĤLARGEĤMEDIUMĤSMALLĩ DOUBLE",
  "ğPEAKS LARGEĥMEDIUMĥSMALLğSHAKINGĠINGLE STRAIGHT LARGEĴSTįMEDIUMįSMALLĦWRIST FLEX",
  "ğTRIPLE ALTERNATINGı WRIST FLEXĦSTRAIGHT MOVEMENTĦWRIST FLEXğWAVE CURVE DOUBLE LARGEıMEDIUM",
  "ıSMALLĪTRIPLE LARGEıMEDIUMıSMALLĤDIAGONAL PATH LARGEĲMEDIUMĲSMALLĤHITTING CHESTĬFRONT WALL",
  "ĠRIST CIRCLE FRONT DOUBLEĲSINGLEğZIGZAG LARGEĦMEDIUMĦSMALLČNECKčOSE CONTACTđNEUTRALđWIGGLES",
  "ĒRINKLESČPARENTHESISČROTATION MODIFIER-10ğ1ğ2ğ3ğ4ğ5ğ6Ğ2Ğ3Ğ4Ğ5Ğ6Ğ7Ğ8Ğ9Ĕ-FLOORPLANE ALTERNATING",
  "ī HITTING CEILINGĴFLOORĠDOUBLEĦ HITTING CEILINGįFLOORĠSINGLEĦ HITTING CEILINGįFLOOR",
  "ĕWALLPLANE ALTERNATEħING HITTING CHESTĳFRONT WALLğDOUBLEĥ HITTING CHESTĮFRONT WALLğSINGLE",
  "ĥ HITTING CHESTĮFRONT WALLčUB BETWEENĐMULTIPLEĐSINGLEČSEMICOLONčHOULDER HIP POSITIONSęSPINE",
  "ĕTILTING FROM WAISTčQUEEZE FLICK ALTERNATINGĔLARGE MULTIPLEĚSINGLEĔSEQUENTIALĕMALL MULTIPLE",
  "ĚSINGLEčTRIKE BETWEENēMULTIPLEēSINGLEčURFACE BETWEENĔSYMBOLSČTEETHđ BITE LIPSĒMOVEMENTĒON LIPS",
  "ę MOVEMENTĕTONGUEě MOVEMENTĎNSE CHEEKS HIGHęLOWęMIDDLEčONGUE CENTRE INSIDE MOUTHĚSTICKING OUT",
  "ēINSIDE MOUTH RELAXEDēLICKING LIPSēMOVES AGAINST CHEEKēSTICKING OUT FARēTIP BETWEEN LIPS",
  "ėTOUCHING INSIDE MOUTHĎRSO-FLOORPLANE TWISTINGĒWALLPLANE CURVED BENDĜSTRAIGHT STRETCH",
  "ĎUCH BETWEENĒMULTIPLEĒSINGLEčRAVEL-FLOORPLANE ROTATION-FLOORPLANE ALTERNATINGĲDOUBLEĲSINGLE",
  "ħWALLPLANE ALTERNATINGıDOUBLEıSINGLEĞSHAKINGēWALLPLANE ARM SPIRAL DOUBLEĨSINGLEĨTRIPLE",
  "ĝROTATION-FLOORPLANE ALTERNATINGıDOUBLEıSINGLEĦWALLPLANE ALTERNATINGİDOUBLEİSINGLEĝSHAKING",
  "ČUPPER BODY TILTING FROM HIP JOINTSČWALLPLANE SHOULDER HIP MOVEĂLHOUETTE OF JAPAN",
  "ĂMILAR ABOVE GREATER-THAN ABOVE EQUALS SIGNĎLESS-THAN ABOVE EQUALS SIGNĈMINUS SIMILAR",
  "ĈOR GREATER-THANċLESS-THANĂNE WAVEăGLE CHARACTER INTRODUCERćGRAPHIC CHARACTER INTRODUCER",
  "ćHIGH-REVERSED-9 QUOTATION MARKćLEFT-POINTING ANGLE QUOTATION MARKĈOW-9 QUOTATION MARK",
  "ćRIGHT-POINTING ANGLE QUOTATION MARKćSHIFT THREEĎWOĆ-SHIFT-2č3ăHALA ARCHAIC DIGIT EIGHTĖFIVE",
  "ėOURĖNINEĖONEĖSEVENėIXĖTHREEėWOĐNUMBER EIGHTYėFIFTYĘORTYėNINETYėONE HUNDREDěTHOUSANDėSEVENTY",
  "ĘIXTYėTENĘHIRTYĘWENTYĈLETTER AAYANNAĐEEYANNAđYANNAĐIYANNAĐLPAPRAANA BAYANNAĚCAYANNAĚDAYANNA",
  "ěDAYANNAĚGAYANNAĚJAYANNAĚKAYANNAĚPAYANNAĚTAYANNAěTAYANNAĐMBA BAYANNAĐUYANNAĐYANNA",
  "ďDANTAJA LAYANNAėNAYANNAėSAYANNAďEEYANNAĐYANNAďFAYANNAďHAYANNAďIIYANNAĐLUUYANNAĒYANNAĐRUUYANNA",
  "ĒYANNAĐYANNAďKANTAJA NAASIKYAYAďMAHAAPRAANA BAYANNAěCAYANNAěDAYANNAĜDAYANNAěGAYANNAěJAYANNA",
  "ěKAYANNAěPAYANNAěTAYANNAĜTAYANNAđYANNAĐUURDHAJA LAYANNAęNAYANNAęSAYANNAďOOYANNAĐYANNAďRAYANNA",
  "ďSANYAKA DAYANNAĘDAYANNAėGAYANNAėJAYANNAďTAALUJA NAASIKYAYAėSANYOOGA NAAKSIKYAYAęYANNAďUUYANNA",
  "ĐYANNAďVAYANNAďYAYANNAĉITH DIGIT EIGHTēFIVEĔOURēNINEēONEēSEVENĔIXēTHREEĔWOēZERO",
  "ĈPUNCTUATION KUNDDALIYAĈSIGN AL-LAKUNAĎNUSVARAYAčCANDRABINDUčVISARGAYAĈVOWEL SIGN AELA-PILLA",
  "ēDIGA AEDA-PILLAĘGAETTA-PILLAĚYANUKITTAĘIS-PILLAĘKOMBUVAĘPAA-PILLAēGAETTA-PILLAĕYANUKITTA",
  "ēKETTI AEDA-PILLAęIS-PILLAęPAA-PILLAĔOMBU DEKAĘVAĚ HAA AELA-PILLAğDIGA AELA-PILLAğGAYANUKITTA",
  "ĂX PETALLED BLACK AND WHITE FLORETTEąOINTED BLACK STARČPINWHEEL STARČSTAR WITH MIDDLE DOT",
  "ă-PER-EM SPACEăTEEN POINTED ASTERISKāKATEBOARDĂI AND SKI BOOTăERĂULLą AND CROSSBONESăNK",
  "āLANTED EQUAL TO OR GREATER-THANĠ WITH DOT INSIDEĔLESS-THANĝ WITH DOT INSIDE",
  "ĈNORTH ARROW WITH HOOKED HEADěRIZONTAL TAILăVONIC ASTERISKĂEDăEPING ACCOMMODATIONĉFACEĉSYMBOL",
  "ąY FACEăUTH OR SPYĂICE OF PIZZAăGHTLY FROWNING FACEĉSMILING FACEĂOPEĄING LARGE ANDĎOR",
  "ăT MACHINEĄHāMALL AIRPLANEćMPERSANDćSTERISKĆBLUE DIAMONDĆCOLONĈMMAĊERCIAL ATĈNTAINS AS MEMBER",
  "ďWITH OVERBARĔVERTICAL BAR AT END OF HORIZONTAL STROKEĆDOLLAR SIGNĆELEMENT OFĐ WITH OVERBAR",
  "ĖVERTICAL BAR AT END OF HORIZONTAL STROKEćM DASHćQUALS SIGNćXCLAMATION MARKĆFULL STOP",
  "ĆGREATER-THAN SIGNĆHYPHEN-MINUSĆIDEOGRAPHIC COMMAĆLEFT CURLY BRACKETċPARENTHESIS",
  "ċTORTOISE SHELL BRACKETĈSS-THAN SIGNĆNUMBER SIGNĆORANGE DIAMONDĆPERCENT SIGNćLUS SIGN",
  "ĆQUESTION MARKĆREVERSE SOLIDUSćIGHT CURLY BRACKETČPARENTHESISČTORTOISE SHELL BRACKET",
  "ćOMAN NUMERAL EIGHTĕLEVENĔFIFTYĖVEĘ HUNDREDĕOURĔNINEĔONEė HUNDREDĘTHOUSANDĔSEVENĕIXĔTENĕHREE",
  "ĕWELVEĖOĆSEMICOLONĆTILDEćWO DOTS OVER ONE DOT PUNCTUATIONĆVEE WITH UNDERBARąER THAN",
  "Č OR EQUAL TOăSH PRODUCTĂILEĄING CAT FACE WITH HEART-SHAPED EYESĖOPEN MOUTHĈFACE WITH HALO",
  "ēEART-SHAPED EYESēORNSĒOPEN MOUTHĜ AND COLD SWEATġSMILING EYESġTIGHTLY-CLOSED EYES",
  "ĒSMILING EYESĞ AND HAND COVERING MOUTHģTHREE HEARTSēUNGLASSESĒTEARăRKING FACEĂOKING SYMBOL",
  "āNAILăKEĂEEZING FACEĂOW CAPPED MOUNTAINĄBOARDERĄFLAKEĄMANć WITHOUT SNOWāOĂCCER BALLăKS",
  "ĂFT HYPHENąICE CREAMąSHELL FLOPPY DISKĄBALLĄWARE-FUNCTION SYMBOLĂGDIAN COMBINING CURVE ABOVE",
  "ĘBELOWĒDOT ABOVEĖBELOWĒHOOK ABOVEėBELOWĒLONG HOOK BELOWĒRESH BELOWĒSTROKE BELOWĒTWO DOTS ABOVE",
  "ěBELOWĈINDEPENDENT SHINĈLETTER ALEPHĐYINďBETHďFETHďGIMELďHEđTHďKAPHďLAMEDHĐESHďMEMďNUNďPE",
  "ďRESH-AYINďSADHEđMEKHĐHINďTAWďWAWďYODHďZAYINĈNUMBER ONEĒ HUNDREDďTENĐWENTY",
  "ĈPUNCTUATION CIRCLE WITH DOTĔHALF CIRCLE WITH DOTĔTWO CIRCLES WITH DOTSĘVERTICAL BARS",
  "ĥ WITH DOTSĂHĂLID QUILT SQUARE ORNAMENTě IN BLACK SQUAREąUSć WITH OVERBARĂM SIGN",
  "ĂON WITH RIGHTWARDS ARROW ABOVEĂRA SOMPENG DIGIT EIGHTēFIVEĔOURēNINEēONEēSEVENĔIXēTHREEĔWO",
  "ēZEROčLETTER AHĔBAHĔCAHĔDAHĔEEHĕHĔGAHĔHAHĔIHĔJAHĔKAHĔLAHĔMAEĖHĔNAHĕGAHĕYAHĔOHĔPAHĔRAHĔSAHĔTAH",
  "ĔUHĔVAHĔYAHĂSĂUND RECORDING COPYRIGHTăTH EAST ARROWĐ AND SOUTH WEST ARROW",
  "đCROSSING NORTH EAST ARROWđTO CORNERđWITH HOOKċBLACK ARROWċDOUBLE ARROWċPOINTING BUDĔLEAF",
  "ĔVINE LEAFċSANS-SERIF ARROWċTRIANGLE-HEADED ARROWĠ TO BARċWHITE ARROWĆWEST ARROW",
  "Đ AND NORTH WEST ARROWđWITH HOOKċBLACK ARROWċDOUBLE ARROWċPOINTING BUDĔLEAFĔVINE LEAF",
  "ċSANS-SERIF ARROWċTRIANGLE-HEADED ARROWĠ TO BARċWHITE ARROWĂYOMBO CLUSTER-INITIAL LETTER LAğRA",
  "ğSAĠHAĈFINAL CONSONANT SIGN -AĝBĝDĝGĝKĝLĝMĝNĞGĝRĝSĞHĈGEMINATION MARK",
  "ĈHEAD MARK WITH MOON AND SUNģ AND FLAMEĨTRIPLE FLAMEĈLETTER -AďAďBAĐHAďCAĐHAďDAĐDAđHAĐHAĐZAďGA",
  "ĐHAďHAďJAĐHAďKAĐHAĐSSAďLAďMAďNAĐGAĐNAĐYAďPAĐHAďRAďSAĐHAĐSAďTAĐHAĐSAđHAĐTAđHAďVAďYAďZAĐHA",
  "ĈMARK DOUBLE SHADčPLUTAčSHADčTSHEGĈSIGN ANUSVARAčJIHVAMULIYAčUPADHMANIYAčVISARGAĉUBJOINER",
  "ĈTERMINAL MARK-1Ė2ĈVOWEL LENGTH MARKĎSIGN AIĔUēEēIēOĔEēUĔEēVOCALIC LěRāPĂAăCEăGHETTIăRKLEćS",
  "ĆING HEARTĂEAK-NO-EVIL MONKEYąERć WITH CANCELLATION STROKEčONE SOUND WAVEčTHREE SOUND WAVES",
  "ąING HEAD IN SILHOUETTEăECH BALLOONĄDBOATăSMILO SIGNĂHERICAL ANGLEď OPENING LEFTĘUPĂIDERĆ WEB",
  "ăRAL CALENDAR PADćNOTE PADćSHELLĂLASHING SWEAT SYMBOLĂONGEăOL OF THREADĄNăRTS MEDAL",
  "ăUTING WHALEāQUARE A OVER MĈARUĈMĈNPEAĈPAATOĈRUHUAĈUćBAARERUĉRĈEETAĈIRUĈORUTOĈQĈUSSYERU",
  "ćC OVER KGĈALĉPĈCĈDĈMĉ CUBEDĊSQUAREDĈOĉRPORATIONĈUPćDAĉASUĈBĈESIĈJĈLĈMĉ CUBEDĊSQUAREDĈORU",
  "ćEEKAAĈRA NAME HEISEIĐMEIZIĐREIWAĐSYOUWAĐTAISYOUĉGĈSUKUUDOĈVćFMĈOOTĉUR CORNERSćGALĉNMAĉRONĈB",
  "ĈHZĈIGAĉNIIĉRUDAAĈPAĈURAMUčTONĈYćHAĉITUĈEKUTAARUĉRUTUĈGĈIRAGANA HOKAĈONĉONĊRUĈPĉAĈUARADDOĉIITO",
  "ĉRANĈZćIMAGE OFď OR EQUAL TOēNOT EQUAL TOĈNĉINGUĉTIĈUćK OHMĈAĉIRIĉRATTOĊORIIĈBĈCALĈEESUĈGĈHZ",
  "ĈIROċGURAMUċMEETORUċWATTOĈKĈLĈMĉ CAPITALċUBEDĊSQUAREDĈOOPOĉRUNAĈPAĈTĈUROONEĊUZEIROĈVĈWĈYURII",
  "ćLEFT OPEN BOX OPERATORĈMĈNĈOGĉZENGEĈXćM CUBEDĉOHMĊVER Sď SQUAREDĉSQUAREDĈAĉHHAĉIKUROĊRUĉNSYON",
  "ĉRUKUĈBĉ SMALLĈEETORUĉGAċTONĈGĈHZĈIKURONĉLĉRIċBAARUĈLĈMĉ CUBEDĊSQUAREDĈOLĈPAĈSĈU AĊFĊGĊLĊMĊSĊV",
  "ĊWĈVĉ MEGAĈWĉ MEGAćNAĉNOĈFĈMĈOTTOĈSĈVĈWćONSUĈOMUĈRIGINAL OFĒ OR EQUAL TOĖNOT EQUAL TOĈVćPA",
  "ĉ AMPSĉASENTOĊTUĈCĈEEZIĉNIHIĊSUĉSOĈFĈHĈIASUTORUĉKOĊURUĈMĈOINTOĉNDOĉSITION INDICATORĈPMĈRĈSĈVĈW",
  "ćRADĊ OVER Sđ SQUAREDĈEMUĉNTOGENĈIGHT OPEN BOX OPERATORĉRAĉTTORUĈOOTĈUPIIĉUBURUćSAIKURUĉNTIIMU",
  "ĈENTIċOĈIRINGUĈRĈVćTARGETĈHZĈONćUONćV OVER MćWATTOĈBĈITH BOTTOM HALF BLACKČCONTOURED OUTLINE",
  "ČDIAGONAL CROSSHATCH FILLČHORIZONTAL FILLČLEFT HALF BLACKčOWER LEFT DIAGONAL HALF BLACK",
  "ĒRIGHT DIAGONAL HALF BLACKČORTHOGONAL CROSSHATCH FILLČRIGHT HALF BLACKČTOP HALF BLACK",
  "ČUPPER LEFT DIAGONAL HALF BLACKėTO LOWER RIGHT FILLĒRIGHT DIAGONAL HALF BLACK",
  "ĘTO LOWER LEFT FILLČVERTICAL FILLćYAADOĊRUĈUANĆD ASTERISKĈCJK UNIFIED IDEOGRAPH-4E00ġ9Ġ2DĠ8C",
  "ĠA4Ğ518Dğ21DĠ4DĠ72ğ3CCĠF3ğ408Ġ39ğ5B6ğ8F0ğ91AĠ29ğB57ğDE6ğF8CĞ624BĠ53Ġ95ğ307Ġ55ğ599ĠB0ğ620ğ708ġ9",
  "ğE80ğF14Ğ7121ğ51FĠ33ğ981ğA7AğD42Ğ89E3ğCA9ğD70Ğ904Ağ14DĉLĉOOLĈDOT OPERATORĈEIGHT K",
  "ĈFALLING DIAGONAL SLASHĉIVE POINT ONEĉOUR DOT PUNCTUATIONčKĉREEĈHCĉDRĉI-RESĉVĈIDĈKATAKANA DE",
  "đKOKOđSAĉEYĈLATIN CAPITAL LETTER AĝBĝCĝDĝEĝFĝGĝHĝIĝJĝKĝLĝMĝNĝOĝPĝQĝRĝSĝTĝUĝVĝWĝXĝYĝZ",
  "ĎSMALL LETTER DĉOGICAL ANDĐORĊSSLESSĈMINUSĉVĈNEWĉGĈOKĉNE HUNDRED TWENTY PĈPLUSĉPV",
  "ĈRISING DIAGONAL SLASHĈSALTIREĉDĉECOND SCREENĊVEN POINT ONEĉHVĉIXTY PĉMALL CIRCLEĉOSĉQUAREĉS",
  "ĈTHREE DĉIMESĉWENTY-TWO POINT TWOĊO KĈUHDĉP WITH EXCLAMATION MARKĈVODĉSĈWC",
  "ĄT BLACK RIGHTWARDS ARROWăIDāS2Ă3ĂAāTĂADIUMăFF OF AESCULAPIUSĉHERMESăMPED ENVELOPE",
  "ăNDING PERSONăR AND CRESCENTąEQUALSąOF DAVIDĆPERATORąWITH LEFT HALF BLACKĊRIGHT HALF BLACK",
  "ĄT OF GUARDED AREAĉHEADINGĉPROTECTED AREAĉSELECTED AREAĊTRINGĉTEXTăTIONĄUE OF LIBERTY",
  "ĂEAM LOCOMOTIVEąING BOWLăNOGRAPHIC FULL STOPăTHOSCOPEĂICK FIGUREČ LEANING LEFTĕRIGHT",
  "čWITH ARMS RAISEDĒDRESSĂOCK CHARTăPWATCHĂRAIGHT RULERĈNESSĄWBERRYăESS OUTLINED WHITE STAR",
  "ăICTLY EQUIVALENT TOĄNG TERMINATORĂSĂUDIO MICROPHONEăFFED FLATBREADăPAĂXāUBăSCRIPT EIGHT",
  "ċQUALS SIGNĊFIVEċOURĊLEFT PARENTHESISĊMINUSĊNINEĊONEĊPLUS SIGNĊRIGHT PARENTHESISĊSEVENċIX",
  "ĊTHREEċWOĊZEROĄET ABOVE RIGHTWARDS ARROWčSUBSETďPERSETćOFĉ ABOVE ALMOST EQUAL TOĐEQUALS SIGN",
  "ĐNOT EQUAL TOĐTILDE OPERATORĊOR EQUAL TOĕ WITH DOT ABOVEĊWITH NOT EQUAL TOćWITH DOT",
  "ČMULTIPLICATION SIGN BELOWČPLUS SIGN BELOWĄTITUTEĂCCEEDSĈ ABOVE ALMOST EQUAL TOďEQUALS SIGN",
  "ďNOT ALMOST EQUAL TOēEQUAL TOďSINGLE-LINE EQUALS SIGNěNOT EQUAL TOĉBUT NOT EQUIVALENT TO",
  "ĉOR EQUAL TOďIVALENT TOĉUNDER RELATIONĂMMATION BOTTOMĊTOPĊWITH INTEGRALĂNă BEHIND CLOUD",
  "ĄWITH FACEăDANESE AVAGRAHAĊCONSONANT SIGN PAMINGKALěNYAKRAĝIKUěSANGAN MAĢWAĊDIGIT EIGHTĐFIVE",
  "đOURĐNINEĐONEĐSEVENđIXĐTHREEđWOĐZEROĊLETTER AĒEđBAĒHAđCAđDAđEĒUđFAĒINAL KėMđGAđHAđIđJAđKAĒHA",
  "đLAĒEUđMAđNAĒGAĒYAđOđPAđQAđRAĒEUđSAĒYAđTAđUđVAđWAđXAđYAđZAĊPUNCTUATION BINDU BA SATANGAĜCAKRA",
  "ĜDA SATANGAĜKA SATANGAĜLEU SATANGAĜPANGLONGĝURNAMAĜSURYAĊSIGN PAMAAEHđNGLAYARēWISADĒYECEK",
  "ďVIRAMAĊVOWEL SIGN PAMEPETėNAELAENGĘEULEUNGĘGHULUĘOLONGĘYUKUăFLOWERăRISEć OVER MOUNTAINS",
  "ăSET OVER BUILDINGSĂPERHEROąSCRIPT EIGHTčQUALS SIGNČFIVEčOURČLATIN SMALL LETTER IğN",
  "čEFT PARENTHESISČMINUSČNINEČONEČPLUS SIGNČRIGHT PARENTHESISČSEVENčIXČTHREEčWOČZERO",
  "ĆET ABOVE LEFTWARDS ARROWďSUBSETđPERSETĉBESIDE AND JOINED BY DASH WITH SUBSETĐSUBSETĉOF",
  "ċ ABOVE ALMOST EQUAL TOĒEQUALS SIGNĒNOT EQUAL TOĒTILDE OPERATORČOR EQUAL TOė WITH DOT ABOVE",
  "ČWITH NOT EQUAL TOĉPRECEDING SOLIDUSĉWITH DOTĎMULTIPLICATION SIGN BELOWĎPLUS SIGN BELOW",
  "ąVILLAINĂRFACE INTEGRALĄERĂSHIăPENSION RAILWAYāWANăSH AMPERSAND ORNAMENTĂIMMERĂUNG DASH",
  "āYLOTI NAGRI LETTER AĔBHOĕOĔCHOĕOĔDDHOĖOĕHOĕOĔEĔGHOĕOĔHOĔIĔJHOĕOĔKHOĕOĔLOĔMOĔNOĔOĔPHOĕOĔROĕRO",
  "ĔSOĔTHOĕOĕTHOĖOĔUčPOETRY MARK-1ę2ę3ę4čSIGN ALTERNATE HASANTAēNUSVARAĒDVISVARAĒHASANTA",
  "čVOWEL SIGN AĘEĘIĘOOĘUĂMBOL FOR ACKNOWLEDGEċBACKSPACEČELLċCANCELčRRIAGE RETURN",
  "ċDATA LINK ESCAPEČELETEđ FORM TWOčVICE CONTROL FOURĚONEĚTHREEěWOċEND OF MEDIUMĒTEXT",
  "ēRANSMISSIONĞ BLOCKčQUIRYČSCAPEċFILE SEPARATORČORM FEEDċGROUP SEPARATORċHORIZONTAL TABULATION",
  "ċLINE FEEDċMARKS CHAPTERċNEGATIVE ACKNOWLEDGEčWLINEČULLċRECORD SEPARATORċSAMARITAN SOURCE",
  "ČHIFT INđOUTČPACEČTART OF HEADINGĔTEXTČUBSTITUTEĕ FORM TWOČYNCHRONOUS IDLEċTYPE A ELECTRONICS",
  "ċUNIT SEPARATORċVERTICAL TABULATIONăMETRYĂNăAGOGUEăCHRONOUS IDLEĂRIAC ABBREVIATION MARK",
  "ćBARREKHćCOLON SKEWED LEFTĔRIGHTĉNTRACTIONćDOTTED ZLAMA ANGULARĔHORIZONTALćEND OF PARAGRAPH",
  "ĈSASA ABOVEčBELOWćFEMININE DOTćHARKLEAN ASTERISCUSĐMETOBELUSĐOBELUSĈBASA ABOVEčBELOW",
  "Č-ESASA DOTTEDĈORIZONTAL COLONćLETTER ALAPHĎBETHĎDALATHďOTLESS DALATH RISHĎEĎFINAL SEMKATH",
  "ĎGAMALē GARSHUNIĎHEĐTHĎKAPHĎLAMADHĎMALAYALAM BHAĘJAĘLLAĚLAĘNGAęNAĚNAęYAĘRAĘSSAĘTTAďIMĎNUNĎPE",
  "ĐRSIAN BHETHĖDHALATHĖGHAMALĎQAPHĎREVERSED PEďISHĎSADHEďEMKATHďHINďOGDIAN FEĖKHAPHĖZHAIN",
  "ďUPERSCRIPT ALAPHĎTAWďETHĒ GARSHUNIĎWAWĎYUDHĒ HEĎZAINćMUSICćOBLIQUE LINE ABOVEĔBELOW",
  "ćPTHAHA ABOVEĎBELOWĎDOTTEDćQUSHSHAYAćRBASA ABOVEčBELOWĈUKKAKHAĈWAHAćSUBLINEAR COLON",
  "Ė SKEWED LEFTĞRIGHTđFULL STOPĉPRALINEAR COLONĘ SKEWED LEFTēFULL STOPćTHREE DOTS ABOVEĒBELOW",
  "ĈWO VERTICAL DOTS ABOVEęBELOWćZQAPHA ABOVEĎBELOWĎDOTTEDĄNGEĀT-REXĂSHIRTāAB",
  "ăLE TENNIS PADDLE AND BALLĂCOĂG AMPERSANDąPOSTROPHEąSTERISKĄCIRCUMFLEX ACCENTąOLONĆMMA",
  "ĈERCIAL ATĄDIGIT EIGHTĊFIVEċOURĊNINEĊONEĊSEVENċIXĊTHREEċWOĊZEROąOLLAR SIGNĄEQUALS SIGN",
  "ąXCLAMATION MARKĄFULL STOPĄGRAVE ACCENTĆEATER-THAN SIGNĄHYPHEN-MINUSĄLATIN CAPITAL LETTER AęB",
  "ęCęDęEęFęGęHęIęJęKęLęMęNęOęPęQęRęSęTęUęVęWęXęYęZĊSMALL LETTER AėBėCėDėEėFėGėHėIėJėKėLėMėNėOėP",
  "ėQėRėSėTėUėVėWėXėYėZąEFT CURLY BRACKETĉPARENTHESISĉSQUARE BRACKETĆSS-THAN SIGNąOW LINE",
  "ĄNUMBER SIGNĄPERCENT SIGNąLUS SIGNĄQUESTION MARKĆOTATION MARKĄREVERSE SOLIDUS",
  "ąIGHT CURLY BRACKETĊPARENTHESISĊSQUARE BRACKETĄSEMICOLONąOLIDUSąPACEĄTILDEĄVERTICAL LINE",
  "ăALOG LETTER AĐRCHAIC RAďBAďDAďGAďHAďIďKAďLAďMAďNAĐGAďPAďRAďSAďTAďUďWAďYAĈSIGN PAMUDPODčVIRAMA",
  "ĈVOWEL SIGN IēUăBANWA LETTER AĐBAĐDAĐGAĐIĐKAĐLAĐMAĐNAđGAĐPAĐSAĐTAĐUĐWAĐYAĉVOWEL SIGN IĔU",
  "ĂI LE LETTER AďIďUEĎEďEďHĎFAĎHAĎIĎKAďHAĎLAĎMAĎNAďGAĎOďOĎPAďHAĎQAĎSAĎTAďHAďONE-2ē3ē4ē5ē6ďSAĐHA",
  "ĎUďEĎVAĎXAĎYAĄTHAM COMBINING CRYPTOGRAMMIC DOTċNSONANT SIGN BAĘFINAL NGAĘHIGH RATHA OR LOW PA",
  "ĘLA TANG LAIęOW PAĘMAęEDIAL LAğRAĘSAĉHORA DIGIT EIGHTĔFIVEĕOURĔNINEĔONEĔSEVENĕIXĔTHREEĕWOĔZERO",
  "ĉLETTER AĐBAĐDAĐEEĐGREAT SAĐHIGH CAĖHAĕFAĕHAĕKAĖHAĖXAĕPAĖHAĕRATHAĕSAĖHAĖSAĕTAĖHAĕYAĐIđIĐLAĒE",
  "đLAđOW CAĕHAĔFAĔHAĔKAĕHAĕXAĔPAĕHAĔRATHAĔSAĔTAĕHAĔYAđUEĐMAĐNAđGAđYAĐOOĐRAĒNAĒTAđUEĐUđUĐWA",
  "ĉSIGN CAANGĎDOKMAIĎHANGďOYĎKAANĒKUUďEOWďHUEN TONE-3ę4ę5ē-LUE KARANĎMAI KANGĖ LAIĒSAMĒYAMOK",
  "ĎRA HAAMďEVERSED ROTATED RANAĎSAKOTĐTKAANĕKUUĐWANĎTONE-1ē2ĎWIANGēWAAKĉTHAM DIGIT EIGHTĔFIVE",
  "ĕOURĔNINEĔONEĔSEVENĕIXĔTHREEĕWOĔZEROĉVOWEL SIGN AĕAĕEĕIĔEĔIĕIĔMAI SATĔOĕA ABOVEėBELOWĕOĕY",
  "ĔTALL AAĕHAM AIĔUĕEĕUĖEĄVIET LETTER HIGH BOĕCHOĖOĕDOĕFOĕGOĕHOĕKHHOėOĖOĕLOĕMOĕNGOĖOĖYOĕOĕPHOĖO",
  "ĕROĕSOĕTHOĖOĕVOĕYOĐLOW BOĔCHOĕOĔDOĔFOĔGOĔHOĔKHHOĖOĕOĔLOĔMOĔNGOĕOĕYOĔOĔPHOĕOĔROĔSOĔTHOĕOĔVOĔYO",
  "ĉMAI KANGĎHITĉSYMBOL HO HOIĐKOI KOIĒNĐNUENGĐSAMĉTONE MAI EKĒNUENGĒSONGĒTHOĉVOWEL AAĐMĐNĐUEĐYďE",
  "ďIĐAďOďUĐAĐEđAĂKEOUT BOXăRI ABBREVIATION SIGNĆDIGIT EIGHTČFIVEčOURČNINEČONEČSEVENčIXČTHREEčWO",
  "ČZEROĆLETTER AĎAĎIĎRCHAIC KHAĎUčBAĎHAčCAĎHAčDAĎDAďHAĎHAčEčGAĎHAčHAčIĎIčJAĎHAčKAĎHAčLAčMAčNAĎGA",
  "ĎNAĎYAčOčPAĎHAčRAĎRAčSAĎHAčTAĎHAĎTAďHAčUĎUčVAčYAĆSIGN ANUSVARAċNUKTAċVIRAMAčSARGA",
  "ĆVOWEL SIGN AAĒIĒUđEđIĒIđOđUĒUĂLLY MARK FIVEċONEĂMALEăIL AND ODD SIGNćS ABOVE SIGN",
  "ćU LENGTH MARKĆCREDIT SIGNćURRENT SIGNĆDAY SIGNćEBIT SIGNćIGIT EIGHTČFIVEčOURČNINEČONEČSEVEN",
  "čIXČTHREEčWOČZEROćRY CULTIVATION SIGNĆFRACTION DOWNSCALING FACTOR KIIZHďONE EIGHTHĘIETHēFIFTH",
  "ĔORTIETHēHALF-1Ę2ēONE-HUNDRED-AND-SIXTIETHēQUARTERēSIXTEENTH-1ĝ2ėY-FOURTHēTENTHĔHIRTY-SECOND",
  "ĕREE-HUNDRED-AND-TWENTIETHĔWENTIETHďTHREE EIGHTIETHSĕQUARTERSĕSIXTEENTHSęY-FOURTHSĕTWENTIETHS",
  "ĆIN POSSESSION SIGNĆLAND SIGNćETTER AĎAĎIĎUčCAčEĎEčHAčIĎIčJAčKAčLAĎLAďLAčMAčNAĎGAĎNAďNAĎYAčOĎO",
  "čPAčRAĎRAčSAĎHAĎSAčTAĎTAčUĎUčVAčYAĆMONTH SIGNĆNUMBER ONE HUNDREDđTHOUSANDčSIGNčTENĆOM",
  "ĆPUNCTUATION END OF TEXTĆRUPEE SIGNĆSALT PAN SIGNćIGN AAZHAAKKUČNUSVARAċCEVITUċKAACUČURUNIčZHI",
  "ċMUKKURUNIčTHALIYAčUVUZHAKKUċNELċPAARAMčNAMčTHAKKUČONċUZHAKKUċVAKAIYARAAčRAAKANČELIČIRAMA",
  "čSARGAćPENT SIGNćTARTING FROM SIGNĆTOTAL SIGNćRADITIONAL CREDIT SIGNĒNUMBER SIGNĆVOWEL SIGN AA",
  "ĒIĒUđEĒEđIĒIđOĒOđUĒUĆWET CULTIVATION SIGNĆYEAR SIGNĂNABATA TREEăGERINEĄSA DIGIT EIGHTčFIVEĎOUR",
  "čNINEčONEčSEVENĎIXčTHREEĎWOčZEROćLETTER ACďQďWCĐQĐXĐZďXďZĎBAĎCAďHAĎDAďHAĎECďQďXďZĎFAďINAL NG",
  "ĎGAďHAĎHAďTAĐTAĎICďQďXďZĎKAďHAĎLAďONG UEXĎMAďCďQďXďZĎNAďGAďHAďYAĎOCďQďXďZĎPAďHAĎRAĎSAďHA",
  "ĐORT AWXĔUEZĎTAďHAďSAĎUCďECĐQĐXĐZďICĐQĐUCđQđXđZĐXĐZďQďXďZĎVCďQďXďZĎWAĎXAĎYAĎZA",
  "ĄUT COMPONENT-001ē2ē3ē4ē5ē6ē7ē8ē9Ē10ē1ē2ē3ē4ē5ē6ē7ē8ē9Ē20ē1ē2ē3ē4ē5ē6ē7ē8ē9Ē30ē1ē2ē3ē4ē5ē6ē7ē8",
  "ē9Ē40ē1ē2ē3ē4ē5ē6ē7ē8ē9Ē50ē1ē2ē3ē4ē5ē6ē7ē8ē9Ē60ē1ē2ē3ē4ē5ē6ē7ē8ē9Ē70ē1ē2ē3ē4ē5ē6ē7ē8ē9Ē80ē1ē2",
  "ē3ē4ē5ē6ē7ē8ē9Ē90ē1ē2ē3ē4ē5ē6ē7ē8ē9đ100ē1ē2ē3ē4ē5ē6ē7ē8ē9Ē10ē1ē2ē3ē4ē5ē6ē7ē8ē9Ē20ē1ē2ē3ē4ē5ē6",
  "ē7ē8ē9Ē30ē1ē2ē3ē4ē5ē6ē7ē8ē9Ē40ē1ē2ē3ē4ē5ē6ē7ē8ē9Ē50ē1ē2ē3ē4ē5ē6ē7ē8ē9Ē60ē1ē2ē3ē4ē5ē6ē7ē8ē9Ē70",
  "ē1ē2ē3ē4ē5ē6ē7ē8ē9Ē80ē1ē2ē3ē4ē5ē6ē7ē8ē9Ē90ē1ē2ē3ē4ē5ē6ē7ē8ē9đ200ē1ē2ē3ē4ē5ē6ē7ē8ē9Ē10ē1ē2ē3ē4",
  "ē5ē6ē7ē8ē9Ē20ē1ē2ē3ē4ē5ē6ē7ē8ē9Ē30ē1ē2ē3ē4ē5ē6ē7ē8ē9Ē40ē1ē2ē3ē4ē5ē6ē7ē8ē9Ē50ē1ē2ē3ē4ē5ē6ē7ē8ē9",
  "Ē60ē1ē2ē3ē4ē5ē6ē7ē8ē9Ē70ē1ē2ē3ē4ē5ē6ē7ē8ē9Ē80ē1ē2ē3ē4ē5ē6ē7ē8ē9Ē90ē1ē2ē3ē4ē5ē6ē7ē8ē9đ300ē1ē2ē3",
  "ē4ē5ē6ē7ē8ē9Ē10ē1ē2ē3ē4ē5ē6ē7ē8ē9Ē20ē1ē2ē3ē4ē5ē6ē7ē8ē9Ē30ē1ē2ē3ē4ē5ē6ē7ē8ē9Ē40ē1ē2ē3ē4ē5ē6ē7ē8",
  "ē9Ē50ē1ē2ē3ē4ē5ē6ē7ē8ē9Ē60ē1ē2ē3ē4ē5ē6ē7ē8ē9Ē70ē1ē2ē3ē4ē5ē6ē7ē8ē9Ē80ē1ē2ē3ē4ē5ē6ē7ē8ē9Ē90ē1ē2",
  "ē3ē4ē5ē6ē7ē8ē9đ400ē1ē2ē3ē4ē5ē6ē7ē8ē9Ē10ē1ē2ē3ē4ē5ē6ē7ē8ē9Ē20ē1ē2ē3ē4ē5ē6ē7ē8ē9Ē30ē1ē2ē3ē4ē5ē6",
  "ē7ē8ē9Ē40ē1ē2ē3ē4ē5ē6ē7ē8ē9Ē50ē1ē2ē3ē4ē5ē6ē7ē8ē9Ē60ē1ē2ē3ē4ē5ē6ē7ē8ē9Ē70ē1ē2ē3ē4ē5ē6ē7ē8ē9Ē80",
  "ē1ē2ē3ē4ē5ē6ē7ē8ē9Ē90ē1ē2ē3ē4ē5ē6ē7ē8ē9đ500ē1ē2ē3ē4ē5ē6ē7ē8ē9Ē10ē1ē2ē3ē4ē5ē6ē7ē8ē9Ē20ē1ē2ē3ē4",
  "ē5ē6ē7ē8ē9Ē30ē1ē2ē3ē4ē5ē6ē7ē8ē9Ē40ē1ē2ē3ē4ē5ē6ē7ē8ē9Ē50ē1ē2ē3ē4ē5ē6ē7ē8ē9Ē60ē1ē2ē3ē4ē5ē6ē7ē8ē9",
  "Ē70ē1ē2ē3ē4ē5ē6ē7ē8ē9Ē80ē1ē2ē3ē4ē5ē6ē7ē8ē9Ē90ē1ē2ē3ē4ē5ē6ē7ē8ē9đ600ē1ē2ē3ē4ē5ē6ē7ē8ē9Ē10ē1ē2ē3",
  "ē4ē5ē6ē7ē8ē9Ē20ē1ē2ē3ē4ē5ē6ē7ē8ē9Ē30ē1ē2ē3ē4ē5ē6ē7ē8ē9Ē40ē1ē2ē3ē4ē5ē6ē7ē8ē9Ē50ē1ē2ē3ē4ē5ē6ē7ē8",
  "ē9Ē60ē1ē2ē3ē4ē5ē6ē7ē8ē9Ē70ē1ē2ē3ē4ē5ē6ē7ē8ē9Ē80ē1ē2ē3ē4ē5ē6ē7ē8ē9Ē90ē1ē2ē3ē4ē5ē6ē7ē8ē9đ700ē1ē2",
  "ē3ē4ē5ē6ē7ē8ē9Ē10ē1ē2ē3ē4ē5ē6ē7ē8ē9Ē20ē1ē2ē3ē4ē5ē6ē7ē8ē9Ē30ē1ē2ē3ē4ē5ē6ē7ē8ē9Ē40ē1ē2ē3ē4ē5ē6ē7",
  "ē8ē9Ē50ē1ē2ē3ē4ē5ē6ē7ē8ē9Ē60ē1ē2ē3ē4ē5ē6ē7ē8ćITERATION MARKĂPE CARTRIDGEąDRIVEĂURUSĂXI",
  "āEACUP WITHOUT HANDLEăPOTăR-OFF CALENDARĄDROP-BARBED RIGHTWARDS ARROWĉSPOKED ASTERISKĂDDY BEAR",
  "ĂLEPHONE LOCATION SIGNĊON TOP OF MODEMĊRECEIVERĒ WITH PAGEčORDERĊSIGNĄSCOPEĄVISION",
  "ăUGU AI LENGTH MARKćDIGIT EIGHTčFIVEĎOURčNINEčONEčSEVENĎIXčTHREEĎWOčZERO",
  "ćFRACTION DIGIT ONE FOR EVEN POWERS OF FOURĞODD POWERS OF FOURĖTHREE FOR EVEN POWERS OF FOUR",
  "ĠODD POWERS OF FOURėWO FOR EVEN POWERS OF FOURĞODD POWERS OF FOURĖZERO FOR ODD POWERS OF FOUR",
  "ćLENGTH MARKĉTTER AďAďIďUĎBAďHAĎCAďHAĎDAďDAĐHAďHAďZAĎEďEĎGAďHAĎHAĎIďIĎJAďHAĎKAďHAĎLAďLAĐLAĎMA",
  "ĎNAĐKAARA POLLUďGAďNAďYAĎOďOĎPAďHAĎRAďRAĐRAĎSAďHAďSAĎTAďHAďSAďTAĐHAĎUďUĎVAďOCALIC LėLĖRėRĎYA",
  "ćSIGN ANUSVARAčVAGRAHAČCANDRABINDUčOMBINING ANUSVARA ABOVEĖCANDRABINDU ABOVEČNUKTAČSIDDHAM",
  "ČTUUMUČVIRAMAĎSARGAćVOWEL SIGN AAēIēUĒEēEĒIēIĒOēOĒUēUĒVOCALIC LěLĚRěRĂNGE SIGN",
  "ăNIS RACQUET AND BALLăTĂST TUBEĂTRAGRAM FOR ACCUMULATIONďDVANCEďGGRAVATIONďSCENTĎBARRIER",
  "ďOLD RESOLUTIONďRANCHING OUTĎCENTREďHANGEďLOSED MOUTHēNESSĒUREďOMPLETIONēIANCEĐNSTANCYđTACT",
  "ĒENTIONĒRARIETYĎDARKENINGďECISIVENESSĐFECTIVENESS OR DISTORTIONĐPARTUREďIFFICULTIESĐMINISHMENT",
  "đMINGĐVERGENCEďOUBTďUTIESĎEASEďMBELLISHMENTďNCOUNTERSĐDEAVOURĐLARGEMENTďTERNITYďXHAUSTION",
  "ĎFAILUREďLIGHTďOLLOWINGĐSTERINGďULL CIRCLEĒNESSĎGATHERINGė INďOING TO MEETďREATNESSďUARDEDNESS",
  "ĎHARDNESSďOLDING BACKĎINCREASEĐNERĎJOYĎKEEPING SMALLďINSHIPĎLABOURINGĐW OR MODELďEGIONĎMASSING",
  "ďEASUREďIREDĎON THE VERGEďPPOSITIONĎPACKINGĐTTERNďENETRATIONďURITYĎREACHĐLEASEĐSIDENCEĒSTANCE",
  "đPONSEďITUALĎSEVERANCEďINKINGďTOPPAGEđVEĐRENGTHĎUNITYĎVASTNESS OR WASTINGĎWAITINGĐTCH",
  "ĎYOUTHFULNESSāHAANA AABAAFILIĈBAFILIćEBEFILIĈEBEEFILIĈYBEYFILIćIBIFILIćLETTER AINUďLIFUĎBAA",
  "ĎCHAVIYANIĎDAADHUĐVIYANIďHAALUĎFAAFUĎGAAFUďHAINUďNAVIYANIĎHAAďHAAĎJAVIYANIĎKAAFUďHAAĎLAAMU",
  "ďHAVIYANIĎMEEMUĎNAAďOONUĎPAVIYANIĎQAAFUĎRAAĎSAADHUďEENUďHAVIYANIĐEENUĎTAVIYANIďHAAĒLUďOďTAA",
  "ĎVAAVUĎWAAVUĎYAAĎZAAĐVIYANIďOćOABOAFILIĈBOFILIĈOBOOFILIćSUKUNćUBUFILIăI CHARACTER ANGKHANKHU",
  "ďBO BAIMAIďCHO CHANėGĕINGĕOEďDO CHADAĒDEKďFO FAĔNđNGMANďHO HIPĒNOKHUKďKHO KHAIĕONĕUATĕWAI",
  "ēRAKHANGĒMUTĐO KAIďLAKKHANGYAOĐO CHULAĒLINGĐUďMAI CHATTAWAēEKēHAN-AKATēTHOĔRIĒTAIKHUĒYAMOK",
  "ĐO MAďNGO NGUĐIKHAHITĐO NENēUďO ANGďPAIYANNOIĐHINTHUđO PHANĕUNGēSAMPHAOĐO PLAďRO RUAĐUďSARA A",
  "ĕAĕEĕI MAIMALAIěUANĕMĔEĔIĕIĔOĔUĕEĖEĕUĐO RUSIĒSALAēOēUAďTHANTHAKHATđO NANGMONTHOēPHUTHAOēTHAHAN",
  "ĖNĕONGĕUNGĐO PATAKĒTAOďWO WAENďYAMAKKANĐO YAKēINGĆURRENCY SYMBOL BAHTąDIGIT EIGHTċFIVEČOUR",
  "ċNINEċONEċSEVENČIXċTHREEČWOċZEROĂERE DOES NOT EXISTĆEXISTSąFOREĄMODYNAMICĆMETERĂIN GREEK CROSS",
  "ąSALTIREĆPACEĄKING FACEăRD PLACE MEDALĂONG SANDALăUGHT BALLOONĂREE BUTTON MOUSE",
  "ĆCONSECUTIVE EQUALS SIGNSĆDIMENSIONAL ANGLEćOT PUNCTUATIONĆLEFTWARDS ARROWS",
  "ćINES CONVERGING LEFTėRIGHTĆNETWORKED COMPUTERSĆPOINTED BLACK STARĆRAYS ABOVEċBELOWċLEFTċRIGHT",
  "ćIGHTWARDS ARROWSĆSPEECH BUBBLESą-D BOTTOM-LIGHTED RIGHTWARDS ARROWHEAD",
  "ĈLEFT-LIGHTED DOWNWARDS EQUILATERAL ARROWHEADĈRIGHT-LIGHTED UPWARDS EQUILATERAL ARROWHEAD",
  "ĈTOP-LIGHTED LEFTWARDS EQUILATERAL ARROWHEADĔRIGHTWARDS ARROWHEADğEQUILATERAL ARROWHEAD",
  "ĆEM DASHĆPER-EM SPACEĂUMBS DOWN SIGNćUP SIGNăNDER CLOUD AND RAINćSTORM",
  "āIBETAN ASTROLOGICAL SIGN -KHYUD PAĚSDONG TSHUGSěGRA GCAN -CHAR RTAGS",
  "ĈCANTILLATION SIGN CANG TE-UĚHEAVY BEATĚLIGHT BEATĚSBUB -CHALĈDIGIT EIGHTĎFIVEďOURĎHALF EIGHT",
  "ēFIVEĔOURēNINEēONEēSEVENĔIXēTHREEĔWOēZEROĎNINEĎONEĎSEVENďIXĎTHREEďWOĎZEROĈKU RU KHA",
  "đ BZHI MIG CANĈLETTER -AďAďBAĐHAďCAĐHAďDAĐDAđHAĐHAĐZAđHAďFIXED-FORM RAďGAĐHAďHAďJAďKAĐHAĐKA",
  "ĐSSAďLAďMAďNAĐGAĐNAĐYAďPAĐHAďRAĐRAďSAĐHAĐSAďTAĐHAĐSAđHAĐTAđHAďWAďYAďZAĐHA",
  "ĉOGOTYPE SIGN CHAD RTAGSĖLHAG RTAGSĈMARK ANG KHANG GYASęONčBKA- SHOG GI MGO RGYANėYIG MGO",
  "ĎSDUS RTAGSďKA- SHOG GI MGO RGYANĐUR YIG MGOčCARET -DZUD RTAGS BZHI MIG CANğME LONG CAN",
  "ēYIG MGO PHUR SHAD MAĎHE MGOĎLOSING BRDA RNYING YIG MGO SGAB MAĕYIG MGO SGAB MA",
  "čDELIMITER TSHEG BSTARčGTER TSHEGĒYIG MGO -UM GTER TSHEG MAĞRNAM BCAD MAĚTRUNCATED A",
  "ĎUG RTAGS GYASęONčHALANTAčINITIAL BRDA RNYING YIG MGO MDUN MAĕYIG MGO MDUN MA",
  "ďTERSYLLABIC TSHEGčLEADING MCHAN RTAGSčMNYAM YIG GI MGO RGYANčNGAS BZUNG NYI ZLAĘSGOR RTAGS",
  "ĎYIS SHADĒTSHEGė SHADčPALUTAčRGYA GRAM SHADĎIN CHEN SPUNGS SHADčSBRUL SHADĎHAD",
  "čTRAILING MCHAN RTAGSĎSA -PHRUďHEG SHADčYIG MGO TSHEG SHAD MAĈSIGN GRU CAN RGYINGSđMED RGYINGS",
  "čINVERTED MCHU CANčLCE TSA CANďI RTAGSčMAR TSHESĎCHU CANčNYI ZLA NAA DAčRDEL DKAR GCIGĘNYIS",
  "ĘSUMėRDEL NAGĒNAG GCIGėNYISėSUMĖRDEL DKARĎJES SU NGA ROĎNAM BCADčSNA LDANčYANG RTAGSďR TSHES",
  "ĉUBJOINED LETTER -AęAęBAĚHAęCAĚHAęDAĚDAěHAĚHAĚZAěHAęFIXED-FORM RAĤWAĤYAęGAĚHAęHAęJAęKAĚHAĚSSA",
  "ęLAęMAęNAĚGAĚNAĚYAęPAĚHAęRAęSAĚHAĚSAęTAĚHAĚSAěHAĚTAěHAęWAęYAęZAĚHAĒSIGN INVERTED MCHU CAN",
  "ėLCE TSA CANėMCHU CANĉYLLABLE OMĊMBOL DRIL BUďNOR BUĕ BZHI -KHYILĖGSUM -KHYILĖNYIS -KHYIL",
  "ďPADMA GDANĐHUR PAďRDO RJEĖ RGYA GRAMĈVOWEL SIGN AAēEĔEēIĔIēOĔOēREVERSED IĝIēUĔUēVOCALIC LĜLěR",
  "ĜRĂCKETĂE OVER INFINITYĂFINAGH CONSONANT JOINERĉLETTER AHAGGAR YAZHđYER YAGH",
  "ĐBERBER ACADEMY YAHġJĐTAWELLEMET YAZđUAREG YAGHĚNęHęKĚHęNGęQęZHĐYAĒAĒBēHĒCHĒDēDĔHēHĒFĒGēHĔHĒH",
  "ēHĒJĒKēHĔHĒLĒMĒNĒPĒQĒRēRĒSēHēSĒTēHēTĒVĒWĒYĒZēHēZđEĒYđIđOđUĉMODIFIER LETTER LABIALIZATION MARK",
  "ĉSEPARATOR MARKĂGERą FACEăHT TRIFOLIATE SNOWFLAKEĂLDEą OPERATORĎ ABOVE LEFTWARDS ARROW",
  "ĕRIGHTWARDS ARROWďWITH DOT ABOVEĔRISING DOTSĆWITH DOT ABOVEďBELOWċRING ABOVEĂMER CLOCK",
  "ĄS WITH LEFT HALF BLACKċRIGHT HALF BLACKĂNYĄ TWO DOTS OVER ONE DOT PUNCTUATIONĂRED FACE",
  "ăHUTA ABBREVIATION SIGNĉNJIĈDIGIT EIGHTĎFIVEďOURĎNINEĎONEĎSEVENďIXĎTHREEďWOĎZEROĈGVANG",
  "ĈLETTER AĐAĐIĐUďBAĐHAďCAĐHAďDAĐDAđHAĐHAďEďGAĐHAďHAďIĐIďJAĐHAďKAĐHAďLAďMAďNAĐGAĐNAĐYAďOďPAĐHA",
  "ďRAďSAĐHAĐSAďTAĐHAĐTAđHAďUĐUďVAĐOCALIC LĘLėRĘRďYAĈOMĈSIGN ANUSVARAĎVAGRAHAčCANDRABINDUčNUKTA",
  "čVIRAMAďSARGAĈVOWEL SIGN AAĔIĔUēEēIĔIēOēSHORT EęOēUĔUēVOCALIC LĜLěRĜRăONIAN SIGN CAPITAL ETĎET",
  "āOILETĂKYO TOWERĂMATOĂNGUEĂOLBOXăTHąBRUSHĂP ARC ANTICLOCKWISE ARROWě WITH PLUS",
  "ĈCLOCKWISE ARROW WITH MINUSĄCURLY BRACKETĄHALF BLACK CIRCLEĉINTEGRALĉLEFT PARENTHESIS",
  "ĉRIGHT PARENTHESISĉSECTION SIGNĆTĄLEFT CORNERĊROPĉHALF BRACKETĄPARENTHESISĄRIGHT CORNERċROP",
  "ĊHALF BRACKETĄSQUARE BRACKETĄTORTOISE SHELL BRACKETĄWITH UPWARDS ARROW ABOVE",
  "ĂRTOISE SHELL BRACKETED CJK UNIFIED IDEOGRAPH-4E09ı8Cį52DDİB89į6253İ557İ72Cį70B9İ6D7",
  "ęLATIN CAPITAL LETTER SĂTAL RUNOUTăO LETTER AčEČBAčREATHY AEĔEĕOĔIĕUČCHAČDAČEčOČGAČHAČIčUČJA",
  "ČKAČLAČMAČNAčGAČOČPAČRAČSAČTAČUČWAČYAąSIGN RISING TONEāRACKBALLĄTORăDE MARK SIGNăINăMĄ CAR",
  "ăNSPLUTOąVERSAL INTERSECTIONĂIANGLE WITH DOT ABOVEĎROUNDED CORNERSĎSERIFS AT BOTTOMĎUNDERBAR",
  "Ĉ-HEADED RIGHTWARDS ARROWĆULAR BULLETċFLAG ON POSTċRULERăCOLONăDENT EMBLEMăGRAM FOR EARTHČFIRE",
  "ČHEAVENČLAKEČMOUNTAINČTHUNDERČWATERčINDăPLE COLON OPERATORćDAGGER",
  "ćHORIZONTAL BAR WITH DOUBLE VERTICAL STROKEěTRIPLE VERTICAL STROKEćINTEGRAL",
  "ćNESTED GREATER-THANĎLESS-THANćPLUSĈRIMEćSOLIDUS BINARY RELATIONćTILDE",
  "ćVERTICAL BAR BINARY RELATIONĔDELIMITERĔRIGHT TURNSTILEĔWITH HORIZONTAL STROKEĂOLLąEYBUSăPHY",
  "ĄICAL DRINKĉFISHĂUEĄ LIGHT MOON ARTAăMPETāUGRIK SIGNĂLIPĂMBLER GLASSĂRKEYĄISH LIRA SIGN",
  "ăNED AMPERSANDĈNGLEćBLACK PENTAGONčSHOGI PIECEćCAPITAL FĈOMMAćDAGGERĈIGIT THREEĎWO",
  "ćGREEK SMALL LETTER IOTAćNORTH EAST POINTING LEAFčWEST POINTING LEAFĉT SIGNćOK HAND SIGN",
  "ćSANS-SERIF CAPITAL GĚLĚYĈEMICOLONĈMALL FĈOUTH EAST POINTING LEAFčWEST POINTING LEAF",
  "ćWHITE SHOGI PIECEăTLEāWELVE POINTED BLACK STARĂISTED RIGHTWARDS ARROWS",
  "ĂO ASTERISKS ALIGNED VERTICALLYĄBUTTON MOUSEĄCONSECUTIVE EQUALS SIGNSĄDOT LEADERĈPUNCTUATION",
  "ćS OVER ONE DOT PUNCTUATIONĄHEARTSĄINTERSECTING LOGICAL ANDęORĄJOINED SQUARES",
  "ĄLOGICAL AND OPERATORČOR OPERATORĄMEN HOLDING HANDSĄSPEECH BUBBLESĄWOMEN HOLDING HANDS",
  "ă-EM DASHĀUGARITIC LETTER AINđLPAĐBETAĐDELTAđHALĐGAMLAđHAINĐHOĒTAĐIĐKAFđHAĐLAMDAĐMEMĐNUNĐPU",
  "ĐQOPAĐRASHAĐSADEĒMKAđHINđSUĐTETđHANNAđOĐUĐWOĐYODĐZETAđUĉWORD DIVIDERāMBRELLAĈ ON GROUND",
  "ĉWITH RAIN DROPSāNAMUSED FACEĂCERTAINTY SIGNĂDERTIEăO SYMBOLĂICORN FACEăON",
  "ą ABOVE BAR ABOVE INTERSECTIONČINTERSECTIONĆBESIDE AND JOINED WITH UNIONĆWITH LOGICAL OR",
  "ċMINUS SIGNċOVERBARăT SEPARATORĄED SYMBOLăVERSAL RECYCLING SYMBOLĂMARRIED PARTNERSHIP SYMBOL",
  "āP ARROW THROUGH CIRCLEĈHEADČ BETWEEN TWO HORIZONTAL BARSčIN A RECTANGLE BOX",
  "ăBARB LEFT DOWN BARB LEFT HARPOONėRIGHT HARPOONĈRIGHT DOWN BARB LEFT HARPOONĘRIGHT HARPOON",
  "ăDOWN ARROWč WITH BASEĈBLACK ARROWĈDOUBLE ARROWĈSANS-SERIF ARROWĈTRIANGLE-HEADED ARROW",
  "ĈWHITE ARROWăFISH TAILăRIGHT DIAGONAL ELLIPSISăTACKć WITH CIRCLE ABOVEĂ-POINTING AIRPLANE",
  "ČMILITARY AIRPLANEČRED TRIANGLEČSMALL AIRPLANEĒRED TRIANGLEČTRIANGLE WITH LEFT HALF BLACK",
  "ĚRIGHT HALF BLACKĂPER AND LEFT AND LOWER TRIANGULAR THREE QUARTERS BLOCKċOWER ONE EIGHTH BLOCK",
  "ĐTRIANGULAR HALF BLOCKĊRIGHT AND LOWER TRIANGULAR THREE QUARTERS BLOCKĆBLADE SCISSORS",
  "ĆFIVE EIGHTHS BLOCKĆHALF BLOCKĐ AND LOWER HALF INVERSE MEDIUM SHADEċCIRCLE",
  "ċINVERSE MEDIUM SHADE AND LOWER HALF BLOCKēWHITE CIRCLEċMEDIUM SHADE",
  "ĆLEFT BLOCK DIAGONAL LOWER CENTRE TO LOWER MIDDLE RIGHTĪUPPER MIDDLE RIGHTİRIGHT",
  "ĠLEFT TO LOWER MIDDLE RIGHTĨUPPER CENTREĮMIDDLE RIGHTĠMIDDLE LEFT TO UPPER CENTREĵMIDDLE RIGHT",
  "ĵRIGHTĚUPPER MIDDLE LEFT TO UPPER CENTREĵRIGHTċCORNER WITH DOT",
  "ċOR LOWER RIGHT CURLY BRACKET SECTIONċQUADRANT CIRCULAR ARCċTO LOWER RIGHT FILLČRIANGLE",
  "đULAR MEDIUM SHADEĆONE EIGHTH BLOCKĊQUARTER BLOCK",
  "ĆRIGHT BLOCK DIAGONAL LOWER MIDDLE LEFT TO LOWER CENTREĶRIGHT",
  "ěUPPER CENTRE TO LOWER MIDDLE RIGHTıRIGHTīUPPER MIDDLE RIGHTġLEFT TO LOWER CENTREįMIDDLE RIGHT",
  "ĩUPPER MIDDLE RIGHTġMIDDLE LEFT TO LOWER CENTREĶMIDDLE RIGHTĶRIGHTČDROP-SHADOWED WHITE SQUARE",
  "ČOR LOWER LEFT CURLY BRACKET SECTIONČPENCILČQUADRANT CIRCULAR ARCČSHADOWED WHITE CIRCLEěSQUARE",
  "ČTO LOWER LEFT FILLčRIANGLEĒULAR MEDIUM SHADEĆSEVEN EIGHTHS BLOCKĆTHREE EIGHTHS BLOCK",
  "ČQUARTERS BLOCKćRIANGULAR ONE QUARTER BLOCKĂSIDE-DOWN FACEĂWARDS ANCORAĉRROW",
  "č AND RIGHT ONE EIGHTH BLOCKĎFROM BARĎLEFTWARDS OF DOWNWARDS ARROWĎTO BARĎWITH DOUBLE STROKE",
  "ēEQUILATERAL ARROWHEADēHORIZONTAL STROKEēLARGE TRIANGLE ARROWHEADēMEDIUM TRIANGLE ARROWHEAD",
  "ēNOTCHED TAILēSMALL EQUILATERAL ARROWHEADęTRIANGLE ARROWHEADēTIP LEFTWARDSėRIGHTWARDS",
  "ĈBLACK ARROWĎCIRCLED WHITE ARROWĈCOMPRESSED ARROWĈDASHED ARROWĉOUBLE ARROWĈFINGER-POST ARROW",
  "ĈHARPOON WITH BARB LEFT BESIDE DOWNWARDS HARPOON WITH BARB RIGHT",
  "ĦUPWARDS HARPOON WITH BARB RIGHTğFROM BARğTO BARĞWARDSĚRIGHT FROM BARĠTO BARğWARDSĉEAVY ARROW",
  "ĎCOMPRESSED ARROWĈPAIRED ARROWSĈQUADRUPLE ARROWĈROCKETĈSANS-SERIF ARROWĉQUARED ARROW",
  "ĈTRIANGLE ARROWHEADĐ-HEADED ARROWĝ LEFTWARDS OF DOWNWARDS TRIANGLE-HEADED ARROWĞTO BAR",
  "ĞWITH BOLD SHAFTģDOUBLE HORIZONTAL STROKEģHEAVY SHAFTģLONG TIP LEFTWARDSĬRIGHTWARDS",
  "ģMEDIUM SHAFTģNARROW SHAFTģVERY HEAVY SHAFTĘDASHED ARROWĘPAIRED ARROWSċPLE ARROW",
  "ĉWO HEADED ARROWċ-HEADED ARROW FROM SMALL CIRCLEęWITH TRIANGLE ARROWHEADSĈWHITE ARROW",
  "ē FROM BARĜ WITH HORIZONTAL BARĔON PEDESTALğ WITH HORIZONTAL BARĥVERTICAL BAR",
  "ĔWITHIN TRIANGLE ARROWHEADĎDOUBLE ARROWĚ ON PEDESTALāRANUSāSĀVAI COMMAĄDIGIT EIGHTĊFIVEċOUR",
  "ĊNINEĊONEĊSEVENċIXĊTHREEċWOĊZEROĄFULL STOPĄQUESTION MARKĄSYLLABLE AĎNčBAĎEďEĎHAďEĐEďIďOĐOďUĎI",
  "ĎOďOĎUčCAĎEďEĎIĎOďOĎUčDAĎEďEĎHAďEĐEďHAĐEđEĐIĐOđOĐUďIďOĐOďUĎIĎOďOĎUčEĎEďNĎNčFAĎEďEĎIĎOďOĎUčGA",
  "ĎBAďEĐEĐNďIďOĐNĐOďUĎEďEďNĎIĎOďOĎUčHAďNĎEďEďNĎIďNĎOďNďOĎUďNčIĎNčJAĎEďEĎIĎOďOĎUčKAďNĎEďEĎIĎOďO",
  "ĎPAĐNďEĐEĐNďIďOĐOďUĎUčLAĎEďEďNGTHENERĎIĎOďOĎUčMAĎBAďEĐEďIďOĐOďUĎEďEĎGBAĐEđEĐIĐOđOĐUĎIĎOďOĎUčNA",
  "ĎDAďEĐEďIďOĐLE DOēFAēKAēMAēSOOĐOďUĎEďEĎGďANďENďGAĐEđEđNĐIĐOđOĐUďONĎIĎJAďEĐEďIďOĐOďUĎOďOĎUĎYAďE",
  "ĐEďIďOĐOďUčOĎNĎOďNčPAĎEďEĎIĎOďOĎUčRAĎEďEĎIĎOďOĎUčSAĎEďEĎHAďEĐEďIďOĐOďUĎIĎOďOĎUčTAĎEďEĎHAďEĐEďI",
  "ďOĐOďUĎIĎOďOĎUčUĎNčVAĎEďEĎIĎOďOĎUčWAďNĎEďEĐNďNĎIďNĎOďNďOĐNĎUďNčYAĎEďEĎIĎOďOĎUčZAĎEďEĎHAďEĐEďI",
  "ďOĐOďUĎIĎOďOĎUĆMBOL BANGċDANGČO-OčONGċFAAČEENGċJONGċKEENGČUNGċNIIċTAAČINGČONGĂMPIRE",
  "ĂRIATION SELECTOR-1Ĕ0ĕ0ĕ1ĕ2ĕ3ĕ4ĕ5ĕ6ĕ7ĕ8ĕ9Ĕ1ĕ0ĕ1ĕ2ĕ3ĕ4ĕ5ĕ6ĕ7ĕ8ĕ9Ĕ2ĕ0ĕ1ĕ2ĕ3ĕ4ĕ5ĕ6ĕ7ĕ8ĕ9Ĕ3ĕ0ĕ1ĕ2",
  "ĕ3ĕ4ĕ5ĕ6ĕ7ĕ8ĕ9Ĕ4ĕ0ĕ1ĕ2ĕ3ĕ4ĕ5ĕ6ĕ7ĕ8ĕ9Ĕ5ĕ0ĕ1ĕ2ĕ3ĕ4ĕ5ĕ6ĕ7ĕ8ĕ9Ĕ6ĕ0ĕ1ĕ2ĕ3ĕ4ĕ5ĕ6ĕ7ĕ8ĕ9Ĕ7ĕ0ĕ1ĕ2ĕ3ĕ4ĕ5",
  "ĕ6ĕ7ĕ8ĕ9Ĕ8ĕ0ĕ1ĕ2ĕ3ĕ4ĕ5ĕ6ĕ7ĕ8ĕ9Ĕ9ĕ0ĕ1ĕ2ĕ3ĕ4ĕ5ĕ6ĕ7ĕ8ĕ9ē2Ĕ0ĕ0ĕ1ĕ2ĕ3ĕ4ĕ5ĕ6ĕ7ĕ8ĕ9Ĕ1ĕ0ĕ1ĕ2ĕ3ĕ4ĕ5ĕ6ĕ7",
  "ĕ8ĕ9Ĕ2ĕ0ĕ1ĕ2ĕ3ĕ4ĕ5ĕ6ĕ7ĕ8ĕ9Ĕ3ĕ0ĕ1ĕ2ĕ3ĕ4ĕ5ĕ6ĕ7ĕ8ĕ9Ĕ4ĕ0ĕ1ĕ2ĕ3ĕ4ĕ5ĕ6ĕ7ĕ8ĕ9Ĕ5ĕ0ĕ1ĕ2ĕ3ĕ4ĕ5ĕ6Ĕ6Ĕ7Ĕ8Ĕ9",
  "ē3Ĕ0Ĕ1Ĕ2Ĕ3Ĕ4Ĕ5Ĕ6Ĕ7Ĕ8Ĕ9ē4Ĕ0Ĕ1Ĕ2Ĕ3Ĕ4Ĕ5Ĕ6Ĕ7Ĕ8Ĕ9ē5Ĕ0Ĕ1Ĕ2Ĕ3Ĕ4Ĕ5Ĕ6Ĕ7Ĕ8Ĕ9ē6Ĕ0Ĕ1Ĕ2Ĕ3Ĕ4Ĕ5Ĕ6Ĕ7Ĕ8Ĕ9ē7Ĕ0Ĕ1",
  "Ĕ2Ĕ3Ĕ4Ĕ5Ĕ6Ĕ7Ĕ8Ĕ9ē8Ĕ0Ĕ1Ĕ2Ĕ3Ĕ4Ĕ5Ĕ6Ĕ7Ĕ8Ĕ9ē9Ĕ0Ĕ1Ĕ2Ĕ3Ĕ4Ĕ5Ĕ6Ĕ7Ĕ8Ĕ9āECTOR OR CROSS PRODUCT",
  "ĂDIC SIGN ANUSVARA ANTARGOMUKHAĔBAHIRGOMUKHAĔUBHAYATO MUKHAĔVAMAGOMUKHAğ WITH TAILČRDHAVISARGA",
  "ČTIKRAMAċDOUBLE ANUSVARA ANTARGOMUKHAċHEXIFORM LONG ANUSVARAċJIHVAMULIYAċLONG ANUSVARA",
  "ċNIHSHVASAċREVERSED VISARGA ANUDATTAĜUDATTAČOTATED ARDHAVISARGAČTHANG LONG ANUSVARAċTIRYAK",
  "ċUPADHMANIYAċVISARGA ANUDATTAě WITH TAILēSVARITAēUDATTAę WITH TAILċYAJURVEDIC MIDLINE SVARITA",
  "ĆTONE ATHARVAVEDIC INDEPENDENT SVARITAċCANDRA ABOVEĒBELOWċDOT BELOWčUBLE RING ABOVEĒSVARITA",
  "ċKARSHANAčTHAKA ANUDATTAċPRENKHAċRIGVEDIC KASHMIRI INDEPENDENT SVARITAčNG ABOVEċSHARA",
  "ċTHREE DOTS BELOWČRIPLE SVARITAČWO DOTS BELOWċYAJURVEDIC AGGRAVATED INDEPENDENT SVARITA",
  "ĖINDEPENDENT SVARITAĖKATHAKA INDEPENDENT SVARITAı SCHROEDERĂRSICLE",
  "ăTICAL BAR BESIDE RIGHT TRIANGLEčDOUBLE LEFT TURNSTILEčTRIPLE RIGHT TURNSTILE",
  "čWITH HORIZONTAL STROKEĉELLIPSISĉFOUR DOTSĉIDEOGRAPHIC ITERATION MARKĉKANA REPEAT MARK",
  "ę LOWER HALFĚUPPER HALFĕWITH VOICED SOUND MARKī UPPER HALFĉLINEč EXTENSIONĎWITH CIRCLE ABOVE",
  "ĚBELOWēMIDDLE DOTĉMALE WITH STROKE SIGNĉONE EIGHTH BLOCK-2Ě3Ě4Ě5Ě6Ě7ĉSIX DOTSĉTAB KEYČULATION",
  "ē SETĊILDEĊRAFFIC LIGHTĉZIGZAG LINEăY BOLD GREEK CROSSąHEAVY EIGHT POINTED BLACK STAR",
  "đSPOKED ASTERISKċFIVE SPOKED ASTERISKċGREEK CROSSċREVERSE SOLIDUSċSALTIREČIX SPOKED ASTERISK",
  "ČOLIDUSċWHITE CIRCLEđSQUAREąMUCH GREATER-THANĊLESS-THANĂSTAāIBRATION MODEĂCTORY HAND",
  "ĂDEO CAMERAĆGAMEąCASSETTEĂETNAMESE ALTERNATE READING MARK CAĢNHAYăWDATA SQUAREĂOLINĂRGO",
  "ĂTHKUQI CAPITAL LETTER AĘBBEęEĘCEęHEĘDEęHEĘEęIĘFEĘGAĘHAęHAĘIęJEĘJEĘKAĘLAęLAĘMEĘNEęJEĘOĘPEĘQA",
  "ĘREĘSEęHEĘTEęHEĘUĘVEĘXEĘYĘZEĉSMALL LETTER AĖBBEėEĖCEėHEĖDEėHEĖEėIĖFEĖGAĖHAėHAĖIėJEĖJEĖKAĖLAėLA",
  "ĖMEĖNEėJEĖOĖPEĖQAĖREĖSEėHEĖTEėHEĖUĖVEĖXEĖYĖZEāOIDED GREEK CROSSĂLCANOăLEYBALLăUME INTEGRALāS1",
  "ă0Ą0Ą1Ą2Ą3Ą4Ą5Ą6Ą7Ą8Ą9ă1Ą0Ą1Ą2Ą3Ą4Ą5Ą6Ą7Ą8Ą9ă2Ą0Ą1Ą2Ą3Ą4Ą5Ą6Ą7Ą8Ą9ă3Ą0Ą1Ą2Ą3Ą4Ą5Ą6Ą7Ą8Ą9ă4Ą0Ą1",
  "Ą2Ą3Ą4Ą5Ą6Ą7Ą8Ą9ă5Ą0Ą1Ą2Ą3Ą4Ą5Ą6Ą7Ą8Ą9ă6Ą0Ą1Ą2Ą3Ą4Ą5Ą6Ą7Ą8Ą9ă7Ą0Ą1Ą2Ą3Ą4Ą5Ą6Ą7Ą8Ą9ă8Ą0Ą1Ą2Ą3Ą4",
  "Ą5Ą6Ą7Ą8Ą9ă9Ą0Ą1Ą2Ą3Ą4Ą5Ą6Ą7Ą8Ą9Ă2ă0Ą0Ą1Ą2Ą3Ą4Ą5Ą6Ą7Ą8Ą9ă1Ą0Ą1Ą2Ą3Ą4Ą5Ą6Ą7Ą8Ą9ă2Ą0Ą1Ą2Ą3Ą4Ą5Ą6",
  "Ą7Ą8Ą9ă3Ą0Ą1Ą2Ą3Ą4Ą5Ą6Ą7Ą8Ą9ă4Ą0Ą1Ą2Ą3Ą4Ą5Ą6Ą7Ą8Ą9ă5Ą0Ą1Ą2Ą3Ą4Ą5Ą6ă6ă7ă8ă9Ă3ă0ă1ă2ă3ă4ă5ă6ă7ă8",
  "ă9Ă4ă0ă1ă2ă3ă4ă5ă6ă7ă8ă9Ă5ă0ă1ă2ă3ă4ă5ă6ă7ă8ă9Ă6ă0ă1ă2ă3ă4ă5ă6ă7ă8ă9Ă7ă0ă1ă2ă3ă4ă5ă6ă7ă8ă9Ă8ă0",
  "ă1ă2ă3ă4ă5ă6ă7ă8ă9Ă9ă0ă1ă2ă3ă4ă5ă6ă7ă8ă9āTĂSāULCANUSăGAR FRACTION FIVE EIGHTHSĕSIXTHS",
  "đOUR FIFTHSĐONE EIGHTHĔFIFTHĔHALFĔNINTHĔQUARTERĔSEVENTHĕIXTHĔTENTHĕHIRDĐSEVEN EIGHTHS",
  "ĐTHREE EIGHTHSĖFIFTHSĖQUARTERSđWO FIFTHSĔTHIRDSĐZERO THIRDSĀWAFFLEĂNCHO DIGIT EIGHTčFIVEĎOUR",
  "čNINEčONEčSEVENĎIXčTHREEĎWOčZEROćLETTER AďAĐNđGďNGďUĎBAĎCAĎDAĎEďNĎFAĎGAĎHAĎIďNGĎJAĎKAďHAĎLA",
  "ďLHAĎMAĎNAďGAďYAĎOďNĐGĎPAďHAĎRAĎSAďHAĎTAďHAďRAďSAĎUďENĎVAĎWAĎYAďIHĎZAćNGUN SIGNćTONE KOIďNI",
  "ČTUPďNIăING CRESCENT MOON SYMBOLćGIBBOUS MOON SYMBOLĂRANG CITI CAPITAL LETTER AĜMĜNGĜTěBUěDAěE",
  "ĜNNĝYěGAěHARĜIYOĜOLOĝRRěIIěKOěNGAAĜUNGěOĜDDěPUěSIIĜSUUěTTEěUCĜUěVIYOěWIěYAĜOĜUĝJČDIGIT EIGHT",
  "ĒFIVEēOURĒNINEĒONEĒSEVENēIXĒTHREEēWOĒZEROČNUMBER EIGHTYēFIFTYĔORTYēNINETYēSEVENTYĔIXTYēTEN",
  "ĔHIRTYĔWENTYČOMČSMALL LETTER AĚMĚNGĚTęBUęDAęEĚNNěYęGAęHARĚIYOĚOLOěRRęIIęKOęNGAAĚUNGęOĚDDęPU",
  "ęSIIĚSUUęTTEęUCĚUęVIYOęWIęYAĚOĚUěJăNING SIGNĂSTEBASKETĂTCHăER BUFFALOĆCLOSETĆPOLOĆWAVEąMELON",
  "ĂVE ARROW POINTING DIRECTLY LEFTĝRIGHTąDASHăING BLACK FLAGćHAND SIGNćWHITE FLAGăY DASHąLINE",
  "ĆOW LINEąOVERLINEĂXING CRESCENT MOON SYMBOLćGIBBOUS MOON SYMBOLāEARY CAT FACEĆFACEĂDDING",
  "ăGE-TAILED RIGHTWARDS ARROWĂIERSTRASS ELLIPTIC FUNCTIONăGHT LIFTERĂST SYRIAC CROSSāHALEĂEEL",
  "ą OF DHARMAąCHAIR SYMBOLĂITE ARROW SHAFT WIDTH ONEĘTWO THIRDSĆBULLETĆCHESS BISHOP",
  "Ē ROTATED NINETY DEGREESěTWO HUNDRED SEVENTY DEGREESČEQUIHOPPERĖ ROTATED NINETY DEGREESČKING",
  "Đ ROTATED NINETY DEGREESęTWO HUNDRED SEVENTY DEGREESčNIGHTĒ ROTATED FORTY-FIVE DEGREES",
  "ěNINETY DEGREESěONE HUNDRED THIRTY-FIVE DEGREESěTHREE HUNDRED FIFTEEN DEGREES",
  "ĜWO HUNDRED SEVENTY DEGREESħTWENTY-FIVE DEGREESĒ-BISHOPēQUEENēROOKČPAWN",
  "Đ ROTATED NINETY DEGREESęTWO HUNDRED SEVENTY DEGREESČQUEENđ ROTATED NINETY DEGREES",
  "ĚTWO HUNDRED SEVENTY DEGREESČROOKĐ ROTATED NINETY DEGREESęTWO HUNDRED SEVENTY DEGREES",
  "ČTURNED BISHOPēKINGĔNIGHTēPAWNēQUEENēROOKćIRCLEČ CONTAINING BLACK SMALL CIRCLEčWITH DOT RIGHT",
  "ĔWN ARROWĒLOWER LEFT QUADRANTĘRIGHT QUADRANTĒTWO DOTSĒUPPER LEFT QUADRANTĘRIGHT QUADRANT",
  "ćLUB SUITćONCAVE-SIDED DIAMONDě WITH LEFTWARDS TICKġRIGHTWARDS TICKĆDIAMOND",
  "č CONTAINING BLACK MEDIUM DIAMONDğSMALL DIAMONDğVERY SMALL DIAMONDĎIN SQUAREĎSUIT",
  "ĎWITH CENTRED DOTćOWN POINTING BACKHAND INDEXĔINDEXĔLEFT HAND INDEXĊ-POINTING SMALL TRIANGLE",
  "ĔTRIANGLEćRAUGHTS KINGďMANĆEXCLAMATION MARK ORNAMENTĆFLAGĊ WITH HORIZONTAL MIDDLE BLACK STRIPE",
  "ĈORETTEĉWERćOUR POINTED CUSPēSTARćROWNING FACEĆHARD SHELL FLOPPY DISKćEARTċ SUITĉVY CHECK MARK",
  "ČSALTIRE WITH ROUNDED CORNERSĈXAGONćORIZONTAL ELLIPSEĈURGLASSĆLARGE SQUAREĈTIN CROSS",
  "ćEFT LANE MERGEċPOINTING BACKHAND INDEXĔINDEXĊ-POINTING POINTERĔSMALL TRIANGLEĔTRIANGLE",
  "ćOZENGE CONTAINING BLACK SMALL LOZENGEĆMEDIUM DIAMONDčLOZENGEčSMALL SQUAREĎQUAREĎTAR",
  "ćOON SELENAĆNIBĆPARALLELOGRAMćENNANTĉTAGONĆQUESTION MARK ORNAMENTĆRECTANGLE",
  "ćIGHT POINTING BACKHAND INDEXĕINDEXċ-POINTING PENTAGONĖOINTERĕSMALL TRIANGLEĕTRIANGLEĆSCISSORS",
  "ćESAME DOTćHOGI PIECEćMALL LOZENGEČSQUAREčTARĈILING FACEćPADE SUITćQUAREČ BUTTON",
  "čCONTAINING BLACK MEDIUM SQUAREĞSMALL SQUAREĞVERY SMALL SQUAREčWITH CENTRE VERTICAL LINE",
  "ĒLEFTWARDS TICKēOWER LEFT QUADRANTĘRIGHT QUADRANTĒRIGHTWARDS TICKēOUNDED CORNERS",
  "ĒUPPER LEFT QUADRANTĘRIGHT QUADRANTĒVERTICAL BISECTING LINEćTARćUNĉ BEHIND CLOUDĖ WITH RAIN",
  "ĊWITH RAYSďSMALL CLOUDĆTELEPHONEćOUCHTONE TELEPHONEćRAPEZIUM",
  "ĈIANGLE CONTAINING SMALL WHITE TRIANGLEćWO-WAY LEFT WAY TRAFFICĆUP POINTING BACKHAND INDEX",
  "ĒINDEXĈ-POINTING CHEVRONĒSMALL TRIANGLEĒTRIANGLEĚ WITH DOTĆVERTICAL BARďELLIPSEďRECTANGLE",
  "ĉY SMALL SQUAREą-FEATHERED RIGHTWARDS ARROWāIDE-HEADED DOWNWARDS BARB ARROWĖHEAVY BARB ARROW",
  "ĖLIGHT BARB ARROWĖMEDIUM BARB ARROWĖVERY HEAVY BARB ARROWČLEFTWARDS BARB ARROW",
  "ĖHEAVY BARB ARROWĖLIGHT BARB ARROWĖMEDIUM BARB ARROWĖVERY HEAVY BARB ARROW",
  "ČNORTH EAST BARB ARROWėHEAVY BARB ARROWėLIGHT BARB ARROWėMEDIUM BARB ARROW",
  "ėVERY HEAVY BARB ARROWĒWEST BARB ARROWėHEAVY BARB ARROWėLIGHT BARB ARROWėMEDIUM BARB ARROW",
  "ėVERY HEAVY BARB ARROWČRIGHTWARDS BARB ARROWėHEAVY BARB ARROWėLIGHT BARB ARROW",
  "ėMEDIUM BARB ARROWėVERY HEAVY BARB ARROWČSOUTH EAST BARB ARROWėHEAVY BARB ARROW",
  "ėLIGHT BARB ARROWėMEDIUM BARB ARROWėVERY HEAVY BARB ARROWĒWEST BARB ARROWėHEAVY BARB ARROW",
  "ėLIGHT BARB ARROWėMEDIUM BARB ARROWėVERY HEAVY BARB ARROWČUPWARDS BARB ARROWĔHEAVY BARB ARROW",
  "ĔLIGHT BARB ARROWĔMEDIUM BARB ARROWĔVERY HEAVY BARB ARROWĂGGLY VERTICAL LINEĂLTED FLOWER",
  "ĂND BLOWING FACEąCHIMEĄOWăE GLASSăKING FACEĂRED KEYBOARDāJāOLF FACEĂMANą WITH BUNNY EARS",
  "ąS BOOTSćCLOTHESćHATćSANDALăENS SYMBOLĂN SIGNĂODĂRD JOINERąSEPARATOR MIDDLE DOTăLD MAPăM",
  "ăRIED FACEāRAPPED PRESENTĂEATH PRODUCTăNCHăSTLERSĂITING HANDĀX IN A RECTANGLE BOXā-RAY",
  "āIANGQI BLACK CANNONďHARIOTĎELEPHANTĎGENERALĎHORSEĎMANDARINĎSOLDIERĈRED CANNONčHARIOTČELEPHANT",
  "ČGENERALČHORSEČMANDARINČSOLDIERāORĀYAWNING FACEāELLOW HEARTĂN SIGNĂZIDI COMBINING HAMZA MARK",
  "đMADDA MARKćHYPHENATION MARKćLETTER BEĎCHHIMĐIMďIMĎDADĐLĎELIFďTďWďYNĎFAĎGAFĎHAYďHAĎJAĎKAFďHAF",
  "ĎLAMđ WITH DOT ABOVEĎMIMĎNUNĎOWĎPEďHEĎQAFĎRAďHAĎSADďEďHINďINĎTAďHEĎUMĎVAĐ ALTERNATE FORMĎWAW",
  "ĎXAďHEYNĎYOTđ WITH CIRCUMFLEX ABOVEĎZAĐLďEāI RADICAL BBUTČURċCHEČIPČUOPČYčPčTċDDURČUċGAČEPČGOP",
  "čUOČOTċHMOČXITčOPčUOċJJIEčUTčYČOċKEČITċLIčEČYRċMIČOPċNBIEČYIPčOPČZUPċOPċPUTČYTċQOTċSHATčOPčUR",
  "čYČSIċTATČUċVEPČURċWOċYITČOċZAČOTČUPčRČZIETăSYLLABLE AčPčTčXČBAĎPĎTĎXčBAďPďTďXĎEďPďXĎIďEĐPĐTĐX",
  "ďPďTďXĎOďPďTďXĎUďOĐPĐXďPďRĐXďTďXĎYďPďTďXčEĎPĎXčIĎEďPďTďXĎPĎTĎXčOĎPĎTĎXčUĎOďPďXĎPĎRďXĎTĎXčYĎPĎR",
  "ďXĎTĎXČCAĎPĎTĎXčEĎPĎXčHAďPďTďXĎEďPďTďXĎOďPďTďXĎUďOĐPĐTĐXďPďRĐXďXĎYďPďRĐXďTďXčIĎEďPďTďXĎPĎTĎXčO",
  "ĎPĎTĎXčUĎOďPďXĎPĎRďXĎTĎXčYĎPĎRďXĎTĎXČDAĎPĎTĎXčDAďPďTďXĎEďPďXĎIďEĐPĐXďPďTďXĎOďPďTďXĎUďOĐPĐXďPďR",
  "ĐXďTďXčEĎPĎXčIĎEďPďXĎPĎTĎXčOĎPĎTĎXčUĎOďXĎPĎRďXĎTĎXČEčXČFAĎPĎTĎXčIĎPĎTĎXčOĎPĎXčUĎPĎRďXĎTĎXčYĎP",
  "ĎTĎXČGAĎPĎTĎXčEĎPĎTĎXčGAďPďTďXĎEďPďTďXĎIďEĐPĐXďTďXĎOďPďTďXĎUďOĐPĐTĐXďPďRĐXďTďXčIĎEďPďTďXĎPĎTĎX",
  "čOĎPĎTĎXčUĎOďPďTďXĎPĎRďXĎTĎXČHAĎPĎTĎXčEĎPĎXčIEďXĎTčLAďPďTďXĎEďPďXĎIďEĐPĐXďPďTďXĎOďPďXĎUďOĐPĐX",
  "ďPďRĐXďTďXĎYďPďRĐXďTďXčMAďPďTďXĎIďEĐPĐXďPďTďXĎOďPďTďXĎUďOĐPĐXďPďRĐXďTďXĎYďPďRĐXďXčNAďPďTďXĎEďP",
  "ďXĎIďEĐPĐTĐXďPďTďXĎOPďTďXĎUOĐXďTčOĎPĎTĎXčUOďPďTďXčXAďPďTďXĎEďPďXĎIďEĐPĐTĐXďPďTďXĎOďPďTďXĎUOĐP",
  "ĐTĐXČIčEĎPĎTĎXčPčTĎERATION MARKčXČJIĎEďPďTďXĎPĎTĎXčJIďEĐPĐTĐXďPďTďXĎOďPďTďXĎUďOĐPĐXďPďRĐXďTďX",
  "ĎYďPďTďXčOĎPĎTĎXčUĎOďPďTďXĎPĎRďXĎTĎXčYĎPĎRďXĎTĎXČKAĎPĎTĎXčEĎPĎTĎXčIĎEďPďXĎPĎTĎXčOĎPĎTĎXčUĎOďP",
  "ďXĎPĎRďXĎTĎXČLAĎPĎTĎXčEĎPĎXčIĎEďPďTďXĎPĎTĎXčOĎPĎTĎXčUĎOďPďTďXĎPĎRďXĎTĎXčYĎPĎRďXĎTĎXČMAĎPĎTĎXčE",
  "ĎXčGAďPďTďXĎEďPďXĎIEĐXĎOďPďTďXĎUďOĐPĐXďPďRĐXďTďXčIĎEďPďXĎPĎTĎXčOĎPĎTĎXčUĎOďPďTďXĎPĎRďXĎTĎXčYĎP",
  "ĎTĎXČNAĎPĎXčBAďPďTďXĎIďEĐPĐXďPďTďXĎOďPďTďXĎUďPďRĐXďTďXĎYďPďRĐXďTďXčDAďPďTďXĎEďPďXĎIďEĐXďPďTďX",
  "ĎOďPďTďXĎUďPďRĐXďTďXčEĎPĎXčGAďPďTďXĎEďPďXĎIEĐPĐXĎOďPďTďXĎUOĐTĐXčIĎEďPďXĎPĎTĎXčJIďEĐPĐTĐXďPďTďX",
  "ĎOďPďTďXĎUďOĐXďPďRĐXďXĎYďPďRĐXďTďXčOĎPĎTĎXčRAďPďTďXĎEďPďTďXĎOďPďXĎUďPďRĐXďTďXĎYďPďRĐXďTďXčUĎO",
  "ďPďXĎPĎRďXĎTĎXčYIďEĐPĐTĐXďPďTďXĎOďPďTďXĎUďOĐPĐXďPďTďXčZAďPďTďXĎEďXĎIďEĐPĐXďPďTďXĎOPďXĎUďOĐXďP",
  "ďRĐXďXĎYďPďRĐXďTďXČOčPčTčXČPAĎPĎTĎXčIĎEďPďXĎPĎTĎXčOĎPĎTĎXčUĎOďPďXĎPĎRďXĎTĎXčYĎPĎRďXĎTĎXČQIĎEďP",
  "ďTďXĎPĎTĎXčOĎPĎTĎXčUĎOďPďTďXĎPĎRďXĎTĎXčYĎPĎRďXĎTĎXČRAĎPĎTĎXčEĎPĎXčOĎPĎTĎXčRAďXĎEďPďTďXĎOďPďTďX",
  "ĎUďOĐXďPďRĐXďTďXĎYďPďRĐXďTďXčUĎOďPďXĎPĎRďXĎTĎXčYĎPĎRďXĎTĎXČSAĎPĎTĎXčEĎPĎXčHAďPďTďXĎEďPďTďXĎOďP",
  "ďTďXĎUďOĐPĐXďPďRĐXďTďXĎYďPďRĐXďTďXčIĎEďPďXĎPĎTĎXčOĎPĎTĎXčSAďPďTďXĎEďPďXĎIďEĐPĐXďPďTďXĎOďPďTďX",
  "ĎUďPďTďXĎYďPďRĐXďTďXčUĎOďPďXĎPĎRďXĎTĎXčYĎPĎRďXĎTĎXČTAĎPĎTĎXčEĎPĎXčIĎEďPďXĎPĎTĎXčOĎPĎTĎXčUĎOďP",
  "ďTďXĎPĎRďXĎTĎXČUOĎPĎXČVAĎPĎTĎXčEPĎXčIĎEďPďTďXĎPĎTĎXčOĎPĎTĎXčUĎPĎRďXĎTĎXčYĎPĎRďXĎTĎXČWAĎPĎTĎXčE",
  "ĎPĎXčOĎPĎXčUĎOďPďXČXIĎEďPďTďXĎPĎTĎXčOĎPĎTĎXčUOďXčYĎPĎRďXĎTĎXČYIĎEďPďTďXĎPĎTĎXčOĎPĎTĎXčUĎOďPďT",
  "ďXĎPĎRďXĎTĎXčYĎPĎRďXĎTĎXČZAĎPĎTĎXčEĎPĎXčHAďPďTďXĎEďPďTďXĎOďPďTďXĎUďOĐPĐXďPďRĐXďTďXĎYďPďRĐXďTďX",
  "čIĎEďPďXĎPĎTĎXčOĎPĎTĎXčUĎOďPďXĎPĎRďXĎTĎXčYĎPĎRďXĎTĎXčZAďPďTďXĎEďPďXĎIďEĐPĐTĐXďPďTďXĎOďPďXĎUďP",
  "ďRĐXďXĎYďPďRĐXďTďXĂN YANGāO-YOĀZ NOTATION BAG MEMBERSHIPċDOMAIN ANTIRESTRICTION",
  "ċLEFT BINDING BRACKETĐIMAGE BRACKETċRANGE ANTIRESTRICTIONČELATIONAL COMPOSITION",
  "ČIGHT BINDING BRACKETđIMAGE BRACKETċSCHEMA COMPOSITIONĒPIPINGēROJECTIONČPOTċTYPE COLON",
  "āANABAZAR SQUARE CLOSING DOUBLE-LINED HEAD MARKęHEAD MARKēUSTER-FINAL LETTER LAĦRAĦVAĦYA",
  "ęINITIAL LETTER RAđFINAL CONSONANT MARKđINITIAL DOUBLE-LINED HEAD MARKęHEAD MARKđLETTER -AĘA",
  "ĘBAęHAĘCAęHAĘDAęDAĚHAęHAęZAĚHAĘGAęHAĘHAĘJAĘKAęHAęSSAĘLAĘMAĘNAęGAęNAęYAĘPAęHAĘRAĘSAęHAęSAĘTAęHA",
  "ęSAĚHAęTAĚHAĘVAĘYAĘZAęHAđMARK DOUBLE SHADĖLONG TSHEGĖSHADĖTSHEGđSIGN ANUSVARA",
  "ĖCANDRA WITH ORNAMENTĜBINDUġ WITH ORNAMENTĖVIRAMAĘSARGAĒUBJOINERđVOWEL LENGTH MARKėSIGN AIĝUĜE",
  "ĜIĜOĝEĜREVERSED IĜUĝEāEBRA FACEĂRO WIDTH JOINERċNO-BREAK SPACEčN-JOINERċSPACEĂUS",
  "āIPPER-MOUTH FACEāNAMENNY COMBINING ATTACHING VERTICAL OMETēLOWER TONAL RANGE INDICATOR",
  "ēMARK BORZAYAĘCHASHKAğ POLNAYAęURVED OMETĘDEMESTVENNY ZADERZHKAęVOETOCHIE",
  "ĘGORAZDO NIZKO ON LEFTĩRIGHTĦS KRYZHEM ON LEFTĳRIGHTĠVYSOKOĘKACHKAęRYZHĝ ON LEFTęUPNAYAĘLOMKA",
  "ĘMALO POVYSHE ON LEFTĨRIGHTĥS KHOKHLOM ON LEFTĳRIGHTĨRYZHEMĦTRANNOĘNIZKO ON LEFTġRIGHT",
  "ĞS KRYZHEM ON LEFTīRIGHTĘOBLACHKOęNęTSECHKAĘPODCHASHIEĢ WITH VERTICAL STROKEěVERTKA",
  "ĚVYSHE ON LEFTģRIGHTĠS KHOKHLOM ON LEFTĮRIGHTģRYZHEMġTRANNOĘRAVNOĚZSEKAĘSKOBAęOROCHYA NOZHKA",
  "ęREDNE ON LEFTĢRIGHTęTRANNO MALO POVYSHEĘTIKHAYAęOCHKAęSATA ON LEFTġRIGHTĞS KRYZHEMĘUDARKA",
  "ĘVYSOKO ON LEFTĢRIGHTğS KHOKHLOM ON LEFTĭRIGHTĢRYZHEMĘZADERZHKAęELOĚVOK",
  "ēTONAL RANGE MARK MRACHNOĤSVETLOĤTRESVETLOĉNEUME CHASHKAđELYUSTKAďDEMESTVENNY KLYUCHđRBITSA",
  "ĐOUBLE ZAPYATAYAĐUDAĐVA V CHELNUďFITAďGOLUBCHIK BORZYęMRACHNYęSVETLYęTIKHYĚRESVETLYďKHAMILO",
  "ĐLYUCHĐOBYLAĐRYUKĔ TIKHYĒZHĐUFISMAďMECHIKĕ KLYUCHENEPOSTOYANNYĝPOVODNYĝVOYĖPOVODNYďNEMKA",
  "ďOBLAKOĐSOKAĔ KLYUCHEVAYA NEPOSTOYANNAYAġSVETLAYAĖRYUKOVAYA SVETLAYAĕSVETLAYAĕTRESVETLAYA",
  "ďPALKAđRAKLITđUKĐEREVODKAĘ NEPOSTOYANNAYAĐODCHASHIEđLKULIZMYďREVERSED CHELYUSTKAĐOG",
  "ďSKAMEYTSA DVOECHELNAYA KLYUCHEVAYAĦNEPOSTOYANNAYAĦPROSTAYAĦSVETLAYAęKLYUCHENEPOSTOYANNAYA",
  "ĠVAYA SVETLAYAĥTIKHAYAęMRACHNAYAęSVETLAYAęTIKHAYAĚRESVETLAYAĐLOZHITIEĘ S KRYZHEMěZAPYATOY",
  "ęZAKRYTOEĐTATYAĕ NEPOSTOYANNAYAĖS DVUMYA ZAPYATYMIĘKRYZHEMğ I ZAPYATOYĘROGOMĘZAPYATOY",
  "Ġ I KRYZHEMģPODCHASHIEMĖZAKRYTAYAğ S ZAPYATOYđOPITSAė S OCHKOMĘWITH SOROCHYA NOZHKA",
  "đRELA DVOECHELNAYAĢ KLYUCHEVAYAğOKRYZHEVAYAĠPOVODNAYAĩ KLYUCHEVAYAĖGROMNAYA",
  "Ğ WITH SINGLE ZAPYATAYAĚOKRYZHEVAYAĥ POVODNAYAěPOVODNAYAĤ WITH DOUBLE ZAPYATAYA",
  "ĪSINGLE ZAPYATAYAĖKLYUCHENEPOSTOYANNAYAĝPOVODNAYAėRYUKOVAYAĠ GROMNAYAĩ WITH SINGLE ZAPYATAYA",
  "ĥOKRYZHEVAYAİ POVODNAYAĦPOVODNAYAį WITH DOUBLE ZAPYATAYAĵSINGLE ZAPYATAYAġPOVODNAYAġTRYASKA",
  "ęZHEVAYAĖMRACHNOTIKHAYAĖNEPOSTOYANNAYAĖPOLUPOVODNAYAĘVODNAYAėROSTAYAĖTIKHAYA PUTNAYA",
  "ėRYASOGLASNAYAĜPOVODNAYAĜSTRELNAYAďVRAKHIYA KLYUCHEVAYA MRACHNAYAĤPROSTAYAĤSVETLAYA",
  "ĤTRESVETLAYAĘMRACHNAYAĘPROSTAYAĘSVETLAYAĘTRESVETLAYAďZANOZHEKđPYATAYAĐMEYTSA",
  "ĉPRIZNAK MODIFIER DIRECTION FLIPĚKRYZHĚLEVEL-2Ġ3ĚROGāOMBIEāWJĂNBSPăJĂSP"]

end HeaderBindings.Text
