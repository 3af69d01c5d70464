/-! # Names of the characters from U+2000 to U+2FFF -/

set_option autoImplicit false

namespace SpellLint.Text

/-- Runs of names in the form that is described at the search for a name. -/
def symbolsNames : List String := [
  "2000 aEN QUADaEM QUADaEN SPACEaEM SPACEaTHREE-PER-EM SPACEaFOUR-PER-EM SPACEaSIX-PER-EM SPACEaFIGURE SPACE",
  "aPUNCTUATION SPACEaTHIN SPACEaHAIR SPACEaZERO WIDTH SPACEcNON-JOINERcJOINERaLEFT-TO-RIGHT MARK",
  "aRIGHT-TO-LEFT MARKaHYPHENaNON-BREAKING HYPHENaFIGURE DASHaEN DASHaEM DASHaHORIZONTAL BARaDOUBLE VERTICAL LINE",
  "bLOW LINEaLEFT SINGLE QUOTATION MARKaRIGHT SINGLE QUOTATION MARKaSINGLE LOW-9 QUOTATION MARK",
  "bHIGH-REVERSED-9 QUOTATION MARKaLEFT DOUBLE QUOTATION MARKaRIGHT DOUBLE QUOTATION MARK",
  "aDOUBLE LOW-9 QUOTATION MARKbHIGH-REVERSED-9 QUOTATION MARKaDAGGERaDOUBLE DAGGERaBULLETaTRIANGULAR BULLET",
  "aONE DOT LEADERaTWO DOT LEADERaHORIZONTAL ELLIPSISaHYPHENATION POINTaLINE SEPARATORaPARAGRAPH SEPARATOR",
  "aLEFT-TO-RIGHT EMBEDDINGaRIGHT-TO-LEFT EMBEDDINGaPOP DIRECTIONAL FORMATTINGaLEFT-TO-RIGHT OVERRIDE",
  "aRIGHT-TO-LEFT OVERRIDEaNARROW NO-BREAK SPACEaPER MILLE SIGNbTEN THOUSAND SIGNaPRIMEaDOUBLE PRIMEaTRIPLE PRIME",
  "aREVERSED PRIMEbDOUBLE PRIMEbTRIPLE PRIMEaCARETaSINGLE LEFT-POINTING ANGLE QUOTATION MARK",
  "bRIGHT-POINTING ANGLE QUOTATION MARKaREFERENCE MARKaDOUBLE EXCLAMATION MARKaINTERROBANGaOVERLINEaUNDERTIE",
  "aCHARACTER TIEaCARET INSERTION POINTaASTERISMaHYPHEN BULLETaFRACTION SLASHaLEFT SQUARE BRACKET WITH QUILL",
  "aRIGHT SQUARE BRACKET WITH QUILLaDOUBLE QUESTION MARKaQUESTION EXCLAMATION MARKaEXCLAMATION QUESTION MARK",
  "aTIRONIAN SIGN ETaREVERSED PILCROW SIGNaBLACK LEFTWARDS BULLETbRIGHTWARDS BULLETaLOW ASTERISKaREVERSED SEMICOLON",
  "aCLOSE UPaTWO ASTERISKS ALIGNED VERTICALLYaCOMMERCIAL MINUS SIGNaSWUNG DASHaINVERTED UNDERTIE",
  "aFLOWER PUNCTUATION MARKaTHREE DOT PUNCTUATIONaQUADRUPLE PRIMEaFOUR DOT PUNCTUATIONaFIVE DOT PUNCTUATION",
  "aTWO DOT PUNCTUATIONaFOUR DOT MARKaDOTTED CROSSaTRICOLONaVERTICAL FOUR DOTSaMEDIUM MATHEMATICAL SPACE",
  "aWORD JOINERaFUNCTION APPLICATIONaINVISIBLE TIMESbSEPARATORbPLUS",
  "2066 aLEFT-TO-RIGHT ISOLATEaRIGHT-TO-LEFT ISOLATEaFIRST STRONG ISOLATEaPOP DIRECTIONAL ISOLATE",
  "aINHIBIT SYMMETRIC SWAPPINGaACTIVATE SYMMETRIC SWAPPINGaINHIBIT ARABIC FORM SHAPINGaACTIVATE ARABIC FORM SHAPING",
  "aNATIONAL DIGIT SHAPESaNOMINAL DIGIT SHAPESaSUPERSCRIPT ZERObLATIN SMALL LETTER I",
  "2074 bFOURbFIVEbSIXbSEVENbEIGHTbNINEbPLUS SIGNbMINUSbEQUALS SIGNbLEFT PARENTHESISbRIGHT PARENTHESIS",
  "bLATIN SMALL LETTER NaSUBSCRIPT ZERObONEbTWObTHREEbFOURbFIVEbSIXbSEVENbEIGHTbNINEbPLUS SIGNbMINUSbEQUALS SIGN",
  "bLEFT PARENTHESISbRIGHT PARENTHESIS",
  "2090 aLATIN SUBSCRIPT SMALL LETTER AeEeOeXeSCHWAeHeKeLeMeNePeSeT",
  "20A0 aEURO-CURRENCY SIGNaCOLON SIGNaCRUZEIRO SIGNaFRENCH FRANC SIGNaLIRA SIGNaMILL SIGNaNAIRA SIGNaPESETA SIGN",
  "aRUPEE SIGNaWON SIGNaNEW SHEQEL SIGNaDONG SIGNaEURO SIGNaKIP SIGNaTUGRIK SIGNaDRACHMA SIGNaGERMAN PENNY SIGN",
  "aPESO SIGNaGUARANI SIGNaAUSTRAL SIGNaHRYVNIA SIGNaCEDI SIGNaLIVRE TOURNOIS SIGNaSPESMILO SIGNaTENGE SIGN",
  "aINDIAN RUPEE SIGNaTURKISH LIRA SIGNaNORDIC MARK SIGNaMANAT SIGNaRUBLE SIGNaLARI SIGNaBITCOIN SIGNaSOM SIGN",
  "20D0 aCOMBINING LEFT HARPOON ABOVEbRIGHT HARPOON ABOVEbLONG VERTICAL LINE OVERLAYbSHORT VERTICAL LINE OVERLAY",
  "bANTICLOCKWISE ARROW ABOVEbCLOCKWISE ARROW ABOVEbLEFT ARROW ABOVEbRIGHT ARROW ABOVEbRING OVERLAY",
  "bCLOCKWISE RING OVERLAYbANTICLOCKWISE RING OVERLAYbTHREE DOTS ABOVEbFOUR DOTS ABOVEbENCLOSING CIRCLEcSQUARE",
  "cDIAMONDcCIRCLE BACKSLASHbLEFT RIGHT ARROW ABOVEbENCLOSING SCREENcKEYCAPcUPWARD POINTING TRIANGLE",
  "bREVERSE SOLIDUS OVERLAYbDOUBLE VERTICAL STROKE OVERLAYbANNUITY SYMBOLbTRIPLE UNDERDOTbWIDE BRIDGE ABOVE",
  "bLEFTWARDS ARROW OVERLAYbLONG DOUBLE SOLIDUS OVERLAYbRIGHTWARDS HARPOON WITH BARB DOWNWARDS",
  "bLEFTWARDS HARPOON WITH BARB DOWNWARDSbLEFT ARROW BELOWbRIGHT ARROW BELOWbASTERISK ABOVE",
  "2100 aACCOUNT OFaADDRESSED TO THE SUBJECTaDOUBLE-STRUCK CAPITAL CaDEGREE CELSIUSaCENTRE LINE SYMBOLaCARE OF",
  "aCADA UNAaEULER CONSTANTaSCRUPLEaDEGREE FAHRENHEITaSCRIPT SMALL GbCAPITAL HaBLACK-LETTER CAPITAL H",
  "aDOUBLE-STRUCK CAPITAL HaPLANCK CONSTANTcOVER TWO PIaSCRIPT CAPITAL IaBLACK-LETTER CAPITAL IaSCRIPT CAPITAL L~",
  "aL B BAR SYMBOLaDOUBLE-STRUCK CAPITAL NaNUMERO SIGNaSOUND RECORDING COPYRIGHTaSCRIPT CAPITAL P",
  "aDOUBLE-STRUCK CAPITAL PcQaSCRIPT CAPITAL RaBLACK-LETTER CAPITAL RaDOUBLE-STRUCK CAPITAL RaPRESCRIPTION TAKE",
  "aRESPONSEaSERVICE MARKaTELEPHONE SIGNaTRADE MARK SIGNaVERSICLEaDOUBLE-STRUCK CAPITAL ZaOUNCE SIGNaOHM SIGN",
  "aINVERTED OHM SIGNaBLACK-LETTER CAPITAL ZaTURNED GREEK SMALL LETTER IOTAaKELVIN SIGNaANGSTROM SIGN",
  "aSCRIPT CAPITAL BaBLACK-LETTER CAPITAL CaESTIMATED SYMBOLaSCRIPT SMALL EbCAPITAL EcFaTURNED CAPITAL F",
  "aSCRIPT CAPITAL MbSMALL OaALEF SYMBOLaBET SYMBOLaGIMEL SYMBOLaDALET SYMBOLaINFORMATION SOURCEaROTATED CAPITAL Q",
  "aFACSIMILE SIGNaDOUBLE-STRUCK SMALL PIcGAMMAbCAPITAL GAMMAcPIbN-ARY SUMMATIONaTURNED SANS-SERIF CAPITAL GdL",
  "aREVERSED SANS-SERIF CAPITAL LaTURNED SANS-SERIF CAPITAL YaDOUBLE-STRUCK ITALIC CAPITAL D~dEdIdJaPROPERTY LINE",
  "aTURNED AMPERSANDaPER SIGNaAKTIESELSKABaTURNED SMALL FaSYMBOL FOR SAMARITAN SOURCEaVULGAR FRACTION ONE SEVENTH",
  "dNINTHdTENTHdTHIRDcTWO THIRDScONE FIFTHcTWO FIFTHScTHREE FIFTHScFOUR FIFTHScONE SIXTHcFIVE SIXTHScONE EIGHTH",
  "cTHREE EIGHTHScFIVE EIGHTHScSEVEN EIGHTHSaFRACTION NUMERATOR ONEaROMAN NUMERAL ONEcTWOcTHREEcFOURcFIVEcSIXcSEVEN",
  "cEIGHTcNINEcTENcELEVENcTWELVEcFIFTYcONE HUNDREDcFIVE HUNDREDcONE THOUSANDaSMALL ROMAN NUMERAL ONEdTWOdTHREEdFOUR",
  "dFIVEdSIXdSEVENdEIGHTdNINEdTENdELEVENdTWELVEdFIFTYdONE HUNDREDdFIVE HUNDREDdONE THOUSAND",
  "aROMAN NUMERAL ONE THOUSAND C DcFIVE THOUSANDcTEN THOUSANDcREVERSED ONE HUNDREDaLATIN SMALL LETTER REVERSED C",
  "aROMAN NUMERAL SIX LATE FORMcFIFTY EARLY FORMdTHOUSANDcONE HUNDRED THOUSANDaVULGAR FRACTION ZERO THIRDS",
  "aTURNED DIGIT TWOcTHREE",
  "2190 aLEFTWARDS ARROWaUPWARDS ARROWaRIGHTWARDS ARROWaDOWNWARDS ARROWaLEFT RIGHT ARROWaUP DOWN ARROW",
  "aNORTH WEST ARROWbEAST ARROWaSOUTH EAST ARROWbWEST ARROWaLEFTWARDS ARROW WITH STROKE",
  "aRIGHTWARDS ARROW WITH STROKEaLEFTWARDS WAVE ARROWaRIGHTWARDS WAVE ARROWaLEFTWARDS TWO HEADED ARROW",
  "aUPWARDS TWO HEADED ARROWaRIGHTWARDS TWO HEADED ARROWaDOWNWARDS TWO HEADED ARROWaLEFTWARDS ARROW WITH TAIL",
  "aRIGHTWARDS ARROW WITH TAILaLEFTWARDS ARROW FROM BARaUPWARDS ARROW FROM BARaRIGHTWARDS ARROW FROM BAR",
  "aDOWNWARDS ARROW FROM BARaUP DOWN ARROW WITH BASEaLEFTWARDS ARROW WITH HOOKaRIGHTWARDS ARROW WITH HOOK",
  "aLEFTWARDS ARROW WITH LOOPaRIGHTWARDS ARROW WITH LOOPaLEFT RIGHT WAVE ARROWcARROW WITH STROKE",
  "aDOWNWARDS ZIGZAG ARROWaUPWARDS ARROW WITH TIP LEFTWARDSeRIGHTWARDSaDOWNWARDS ARROW WITH TIP LEFTWARDS",
  "eRIGHTWARDSaRIGHTWARDS ARROW WITH CORNER DOWNWARDSaDOWNWARDS ARROW WITH CORNER LEFTWARDS",
  "aANTICLOCKWISE TOP SEMICIRCLE ARROWaCLOCKWISE TOP SEMICIRCLE ARROWaNORTH WEST ARROW TO LONG BAR",
  "aLEFTWARDS ARROW TO BAR OVER RIGHTWARDS ARROW TO BARaANTICLOCKWISE OPEN CIRCLE ARROWaCLOCKWISE OPEN CIRCLE ARROW",
  "aLEFTWARDS HARPOON WITH BARB UPWARDSeDOWNWARDSaUPWARDS HARPOON WITH BARB RIGHTWARDSeLEFTWARDS",
  "aRIGHTWARDS HARPOON WITH BARB UPWARDSeDOWNWARDSaDOWNWARDS HARPOON WITH BARB RIGHTWARDSeLEFTWARDS",
  "aRIGHTWARDS ARROW OVER LEFTWARDS ARROWaUPWARDS ARROW LEFTWARDS OF DOWNWARDS ARROW",
  "aLEFTWARDS ARROW OVER RIGHTWARDS ARROWbPAIRED ARROWSaUPWARDS PAIRED ARROWSaRIGHTWARDS PAIRED ARROWS",
  "aDOWNWARDS PAIRED ARROWSaLEFTWARDS HARPOON OVER RIGHTWARDS HARPOONaRIGHTWARDS HARPOON OVER LEFTWARDS HARPOON",
  "aLEFTWARDS DOUBLE ARROW WITH STROKEaLEFT RIGHT DOUBLE ARROW WITH STROKEaRIGHTWARDS DOUBLE ARROW WITH STROKE",
  "aLEFTWARDS DOUBLE ARROWaUPWARDS DOUBLE ARROWaRIGHTWARDS DOUBLE ARROWaDOWNWARDS DOUBLE ARROW",
  "aLEFT RIGHT DOUBLE ARROWaUP DOWN DOUBLE ARROWaNORTH WEST DOUBLE ARROWbEAST DOUBLE ARROWaSOUTH EAST DOUBLE ARROW",
  "bWEST DOUBLE ARROWaLEFTWARDS TRIPLE ARROWaRIGHTWARDS TRIPLE ARROWaLEFTWARDS SQUIGGLE ARROW",
  "aRIGHTWARDS SQUIGGLE ARROWaUPWARDS ARROW WITH DOUBLE STROKEaDOWNWARDS ARROW WITH DOUBLE STROKE",
  "aLEFTWARDS DASHED ARROWaUPWARDS DASHED ARROWaRIGHTWARDS DASHED ARROWaDOWNWARDS DASHED ARROW",
  "aLEFTWARDS ARROW TO BARaRIGHTWARDS ARROW TO BARaLEFTWARDS WHITE ARROWaUPWARDS WHITE ARROWaRIGHTWARDS WHITE ARROW",
  "aDOWNWARDS WHITE ARROWaUPWARDS WHITE ARROW FROM BARdON PEDESTALfWITH HORIZONTAL BARgVERTICAL BARcDOUBLE ARROW",
  "eON PEDESTALaRIGHTWARDS WHITE ARROW FROM WALLaNORTH WEST ARROW TO CORNERaSOUTH EAST ARROW TO CORNER",
  "aUP DOWN WHITE ARROWaRIGHT ARROW WITH SMALL CIRCLEaDOWNWARDS ARROW LEFTWARDS OF UPWARDS ARROW",
  "aTHREE RIGHTWARDS ARROWSaLEFTWARDS ARROW WITH VERTICAL STROKEaRIGHTWARDS ARROW WITH VERTICAL STROKE",
  "aLEFT RIGHT ARROW WITH VERTICAL STROKEaLEFTWARDS ARROW WITH DOUBLE VERTICAL STROKE",
  "aRIGHTWARDS ARROW WITH DOUBLE VERTICAL STROKEaLEFT RIGHT ARROW WITH DOUBLE VERTICAL STROKE",
  "aLEFTWARDS OPEN-HEADED ARROWaRIGHTWARDS OPEN-HEADED ARROWaLEFT RIGHT OPEN-HEADED ARROWaFOR ALLaCOMPLEMENT",
  "aPARTIAL DIFFERENTIALaTHERE EXISTSbDOES NOT EXISTaEMPTY SETaINCREMENTaNABLAaELEMENT OFaNOT AN ELEMENT OF",
  "aSMALL ELEMENT OFaCONTAINS AS MEMBERaDOES NOT CONTAIN AS MEMBERaSMALL CONTAINS AS MEMBERaEND OF PROOF",
  "aN-ARY PRODUCTbCOPRODUCTbSUMMATIONaMINUS SIGNaMINUS-OR-PLUS SIGNaDOT PLUSaDIVISION SLASHaSET MINUS",
  "aASTERISK OPERATORaRING OPERATORaBULLET OPERATORaSQUARE ROOTaCUBE ROOTaFOURTH ROOTaPROPORTIONAL TOaINFINITY",
  "aRIGHT ANGLEaANGLEaMEASURED ANGLEaSPHERICAL ANGLEaDIVIDESaDOES NOT DIVIDEaPARALLEL TOaNOT PARALLEL TO",
  "aLOGICAL ANDbORaINTERSECTIONaUNIONaINTEGRALaDOUBLE INTEGRALaTRIPLE INTEGRALaCONTOUR INTEGRALaSURFACE INTEGRAL",
  "aVOLUME INTEGRALaCLOCKWISE INTEGRALbCONTOUR INTEGRALaANTICLOCKWISE CONTOUR INTEGRALaTHEREFOREaBECAUSEaRATIO",
  "aPROPORTIONaDOT MINUSaEXCESSaGEOMETRIC PROPORTIONaHOMOTHETICaTILDE OPERATORaREVERSED TILDEaINVERTED LAZY S",
  "aSINE WAVEaWREATH PRODUCTaNOT TILDEaMINUS TILDEaASYMPTOTICALLY EQUAL TOaNOT ASYMPTOTICALLY EQUAL TO",
  "aAPPROXIMATELY EQUAL TObBUT NOT ACTUALLY EQUAL TOaNEITHER APPROXIMATELY NOR ACTUALLY EQUAL TOaALMOST EQUAL TO",
  "aNOT ALMOST EQUAL TOaALMOST EQUAL OR EQUAL TOaTRIPLE TILDEaALL EQUAL TOaEQUIVALENT TO",
  "aGEOMETRICALLY EQUIVALENT TOaDIFFERENCE BETWEENaAPPROACHES THE LIMITaGEOMETRICALLY EQUAL TO",
  "aAPPROXIMATELY EQUAL TO OR THE IMAGE OFaIMAGE OF OR APPROXIMATELY EQUAL TOaCOLON EQUALSaEQUALS COLON",
  "aRING IN EQUAL TObEQUAL TOaCORRESPONDS TOaESTIMATESaEQUIANGULAR TOaSTAR EQUALSaDELTA EQUAL TO",
  "aEQUAL TO BY DEFINITIONaMEASURED BYaQUESTIONED EQUAL TOaNOT EQUAL TOaIDENTICAL TOaNOT IDENTICAL TO",
  "aSTRICTLY EQUIVALENT TOaLESS-THAN OR EQUAL TOaGREATER-THAN OR EQUAL TOaLESS-THAN OVER EQUAL TO",
  "aGREATER-THAN OVER EQUAL TOaLESS-THAN BUT NOT EQUAL TOaGREATER-THAN BUT NOT EQUAL TOaMUCH LESS-THANbGREATER-THAN",
  "aBETWEENaNOT EQUIVALENT TObLESS-THANbGREATER-THANaNEITHER LESS-THAN NOR EQUAL TObGREATER-THAN NOR EQUAL TO",
  "aLESS-THAN OR EQUIVALENT TOaGREATER-THAN OR EQUIVALENT TOaNEITHER LESS-THAN NOR EQUIVALENT TO",
  "bGREATER-THAN NOR EQUIVALENT TOaLESS-THAN OR GREATER-THANaGREATER-THAN OR LESS-THAN",
  "aNEITHER LESS-THAN NOR GREATER-THANbGREATER-THAN NOR LESS-THANaPRECEDESaSUCCEEDSaPRECEDES OR EQUAL TO",
  "aSUCCEEDS OR EQUAL TOaPRECEDES OR EQUIVALENT TOaSUCCEEDS OR EQUIVALENT TOaDOES NOT PRECEDEcSUCCEEDaSUBSET OF",
  "aSUPERSET OFaNOT A SUBSET OFcSUPERSET OFaSUBSET OF OR EQUAL TOaSUPERSET OF OR EQUAL TO",
  "aNEITHER A SUBSET OF NOR EQUAL TOcSUPERSET OF NOR EQUAL TOaSUBSET OF WITH NOT EQUAL TO",
  "aSUPERSET OF WITH NOT EQUAL TOaMULTISETbMULTIPLICATIONbUNIONaSQUARE IMAGE OFbORIGINAL OFbIMAGE OF OR EQUAL TO",
  "bORIGINAL OF OR EQUAL TObCAPbCUPaCIRCLED PLUSbMINUSbTIMESbDIVISION SLASHbDOT OPERATORbRING OPERATOR",
  "bASTERISK OPERATORbEQUALSbDASHaSQUARED PLUSbMINUSbTIMESbDOT OPERATORaRIGHT TACKaLEFT TACKaDOWN TACKaUP TACK",
  "aASSERTIONaMODELSaTRUEaFORCESaTRIPLE VERTICAL BAR RIGHT TURNSTILEaDOUBLE VERTICAL BAR DOUBLE RIGHT TURNSTILE",
  "aDOES NOT PROVEaNOT TRUEaDOES NOT FORCEaNEGATED DOUBLE VERTICAL BAR DOUBLE RIGHT TURNSTILE",
  "aPRECEDES UNDER RELATIONaSUCCEEDS UNDER RELATIONaNORMAL SUBGROUP OFaCONTAINS AS NORMAL SUBGROUP",
  "aNORMAL SUBGROUP OF OR EQUAL TOaCONTAINS AS NORMAL SUBGROUP OR EQUAL TOaORIGINAL OFaIMAGE OFaMULTIMAP",
  "aHERMITIAN CONJUGATE MATRIXaINTERCALATEaXORaNANDaNORaRIGHT ANGLE WITH ARCbTRIANGLEaN-ARY LOGICAL ANDcOR",
  "bINTERSECTIONbUNIONaDIAMOND OPERATORaDOT OPERATORaSTAR OPERATORaDIVISION TIMESaBOWTIE",
  "aLEFT NORMAL FACTOR SEMIDIRECT PRODUCTaRIGHT NORMAL FACTOR SEMIDIRECT PRODUCTaLEFT SEMIDIRECT PRODUCT",
  "aRIGHT SEMIDIRECT PRODUCTaREVERSED TILDE EQUALSaCURLY LOGICAL ORcANDaDOUBLE SUBSETbSUPERSETbINTERSECTIONbUNION",
  "aPITCHFORKaEQUAL AND PARALLEL TOaLESS-THAN WITH DOTaGREATER-THAN WITH DOTaVERY MUCH LESS-THANcGREATER-THAN",
  "aLESS-THAN EQUAL TO OR GREATER-THANaGREATER-THAN EQUAL TO OR LESS-THANaEQUAL TO OR LESS-THANdGREATER-THAN",
  "dPRECEDESdSUCCEEDSaDOES NOT PRECEDE OR EQUALcSUCCEED OR EQUALaNOT SQUARE IMAGE OF OR EQUAL TO",
  "cORIGINAL OF OR EQUAL TOaSQUARE IMAGE OF OR NOT EQUAL TObORIGINAL OF OR NOT EQUAL TO",
  "aLESS-THAN BUT NOT EQUIVALENT TOaGREATER-THAN BUT NOT EQUIVALENT TOaPRECEDES BUT NOT EQUIVALENT TO",
  "aSUCCEEDS BUT NOT EQUIVALENT TOaNOT NORMAL SUBGROUP OFaDOES NOT CONTAIN AS NORMAL SUBGROUP",
  "aNOT NORMAL SUBGROUP OF OR EQUAL TOaDOES NOT CONTAIN AS NORMAL SUBGROUP OR EQUALaVERTICAL ELLIPSIS",
  "aMIDLINE HORIZONTAL ELLIPSISaUP RIGHT DIAGONAL ELLIPSISaDOWN RIGHT DIAGONAL ELLIPSIS",
  "aELEMENT OF WITH LONG HORIZONTAL STROKEdVERTICAL BAR AT END OF HORIZONTAL STROKE",
  "aSMALL ELEMENT OF WITH VERTICAL BAR AT END OF HORIZONTAL STROKEaELEMENT OF WITH DOT ABOVEdOVERBAR",
  "aSMALL ELEMENT OF WITH OVERBARaELEMENT OF WITH UNDERBARdTWO HORIZONTAL STROKES",
  "aCONTAINS WITH LONG HORIZONTAL STROKEcVERTICAL BAR AT END OF HORIZONTAL STROKE",
  "aSMALL CONTAINS WITH VERTICAL BAR AT END OF HORIZONTAL STROKEaCONTAINS WITH OVERBARaSMALL CONTAINS WITH OVERBAR",
  "aZ NOTATION BAG MEMBERSHIPaDIAMETER SIGNaELECTRIC ARROWaHOUSEaUP ARROWHEADaDOWN ARROWHEADaPROJECTIVEaPERSPECTIVE",
  "aWAVY LINEaLEFT CEILINGaRIGHT CEILINGaLEFT FLOORaRIGHT FLOORaBOTTOM RIGHT CROPbLEFT CROPaTOP RIGHT CROP",
  "bLEFT CROPaREVERSED NOT SIGNaSQUARE LOZENGEaARCaSEGMENTaSECTORaTELEPHONE RECORDERaPOSITION INDICATOR",
  "aVIEWDATA SQUAREaPLACE OF INTEREST SIGNaTURNED NOT SIGNaWATCHaHOURGLASSaTOP LEFT CORNERbRIGHT CORNER",
  "aBOTTOM LEFT CORNERbRIGHT CORNERaTOP HALF INTEGRALaBOTTOM HALF INTEGRALaFROWNaSMILE",
  "aUP ARROWHEAD BETWEEN TWO HORIZONTAL BARSaOPTION KEYaERASE TO THE RIGHTaX IN A RECTANGLE BOXaKEYBOARD",
  "aLEFT-POINTING ANGLE BRACKETaRIGHT-POINTING ANGLE BRACKETaERASE TO THE LEFTaBENZENE RINGaCYLINDRICITY",
  "aALL AROUND-PROFILEaSYMMETRYaTOTAL RUNOUTaDIMENSION ORIGINaCONICAL TAPERaSLOPEaCOUNTERBOREaCOUNTERSINK",
  "aAPL FUNCTIONAL SYMBOL I-BEAMdSQUISH QUADdQUAD EQUALeDIVIDEeDIAMONDeJOTeCIRCLEdCIRCLE STILEeJOTdSLASH BAR",
  "dBACKSLASH BARdQUAD SLASHeBACKSLASHeLESS-THANeGREATER-THANdLEFTWARDS VANEdRIGHTWARDS VANEdQUAD LEFTWARDS ARROW",
  "eRIGHTWARDS ARROWdCIRCLE BACKSLASHdDOWN TACK UNDERBARdDELTA STILEdQUAD DOWN CARETeDELTAdDOWN TACK JOT",
  "dUPWARDS VANEdQUAD UPWARDS ARROWdUP TACK OVERBARdDEL STILEdQUAD UP CARETeDELdUP TACK JOTdDOWNWARDS VANE",
  "dQUAD DOWNWARDS ARROWdQUOTE UNDERBARdDELTA UNDERBARdDIAMOND UNDERBARdJOT UNDERBARdCIRCLE UNDERBARdUP SHOE JOT",
  "dQUOTE QUADdCIRCLE STARdQUAD COLONdUP TACK DIAERESISdDEL DIAERESISdSTAR DIAERESISdJOT DIAERESISdCIRCLE DIAERESIS",
  "dDOWN SHOE STILEdLEFT SHOE STILEdTILDE DIAERESISdGREATER-THAN DIAERESISdCOMMA BARdDEL TILDEdZILDEdSTILE TILDE",
  "dSEMICOLON UNDERBARdQUAD NOT EQUALeQUESTIONdDOWN CARET TILDEdUP CARET TILDEdIOTAdRHOdOMEGAdALPHA UNDERBAR",
  "dEPSILON UNDERBARdIOTA UNDERBARdOMEGA UNDERBARdALPHAaNOT CHECK MARKaRIGHT ANGLE WITH DOWNWARDS ZIGZAG ARROW",
  "aSHOULDERED OPEN BOXaBELL SYMBOLaVERTICAL LINE WITH MIDDLE DOTaINSERTION SYMBOLaCONTINUOUS UNDERLINE SYMBOL",
  "aDISCONTINUOUS UNDERLINE SYMBOLaEMPHASIS SYMBOLaCOMPOSITION SYMBOLaWHITE SQUARE WITH CENTRE VERTICAL LINE",
  "aENTER SYMBOLaALTERNATIVE KEY SYMBOLaHELM SYMBOLaCIRCLED HORIZONTAL BAR WITH NOTCHbTRIANGLE DOWN",
  "aBROKEN CIRCLE WITH NORTHWEST ARROWaUNDO SYMBOLaMONOSTABLE SYMBOLaHYSTERESIS SYMBOL",
  "aOPEN-CIRCUIT-OUTPUT H-TYPE SYMBOLbL-TYPE SYMBOLaPASSIVE-PULL-DOWN-OUTPUT SYMBOLaPASSIVE-PULL-UP-OUTPUT SYMBOL",
  "aDIRECT CURRENT SYMBOL FORM TWOaSOFTWARE-FUNCTION SYMBOLaAPL FUNCTIONAL SYMBOL QUADaDECIMAL SEPARATOR KEY SYMBOL",
  "aPREVIOUS PAGEaNEXT PAGEaPRINT SCREEN SYMBOLaCLEAR SCREEN SYMBOLaLEFT PARENTHESIS UPPER HOOKcEXTENSION",
  "cLOWER HOOKaRIGHT PARENTHESIS UPPER HOOKcEXTENSIONcLOWER HOOKaLEFT SQUARE BRACKET UPPER CORNERdEXTENSION",
  "dLOWER CORNERaRIGHT SQUARE BRACKET UPPER CORNERdEXTENSIONdLOWER CORNERaLEFT CURLY BRACKET UPPER HOOK",
  "dMIDDLE PIECEdLOWER HOOKaCURLY BRACKET EXTENSIONaRIGHT CURLY BRACKET UPPER HOOKdMIDDLE PIECEdLOWER HOOK",
  "aINTEGRAL EXTENSIONaHORIZONTAL LINE EXTENSIONaUPPER LEFT OR LOWER RIGHT CURLY BRACKET SECTION",
  "bRIGHT OR LOWER LEFT CURLY BRACKET SECTIONaSUMMATION TOPbBOTTOMaTOP SQUARE BRACKETaBOTTOM SQUARE BRACKET",
  "dOVER TOP SQUARE BRACKETaRADICAL SYMBOL BOTTOMaLEFT VERTICAL BOX LINEaRIGHT VERTICAL BOX LINE",
  "aHORIZONTAL SCAN LINE-1cLINE-3cLINE-7cLINE-9aDENTISTRY SYMBOL LIGHT VERTICAL AND TOP RIGHTfBOTTOM RIGHT",
  "eWITH CIRCLEdDOWN AND HORIZONTAL WITH CIRCLEdUP AND HORIZONTAL WITH CIRCLEdVERTICAL WITH TRIANGLE",
  "dDOWN AND HORIZONTAL WITH TRIANGLEdUP AND HORIZONTAL WITH TRIANGLEdVERTICAL AND WAVE",
  "dDOWN AND HORIZONTAL WITH WAVEdUP AND HORIZONTAL WITH WAVEdDOWN AND HORIZONTALdUP AND HORIZONTAL",
  "dVERTICAL AND TOP LEFTfBOTTOM LEFTaSQUARE FOOTaRETURN SYMBOLaEJECT SYMBOLaVERTICAL LINE EXTENSIONaMETRICAL BREVE",
  "bLONG OVER SHORTbSHORT OVER LONGbLONG OVER TWO SHORTSbTWO SHORTS OVER LONGdJOINEDbTRISEMEbTETRASEMEbPENTASEME",
  "aEARTH GROUNDaFUSEaTOP PARENTHESISaBOTTOM PARENTHESISaTOP CURLY BRACKETaBOTTOM CURLY BRACKET",
  "aTOP TORTOISE SHELL BRACKETaBOTTOM TORTOISE SHELL BRACKETaWHITE TRAPEZIUMaBENZENE RING WITH CIRCLEaSTRAIGHTNESS",
  "aFLATNESSaAC CURRENTaELECTRICAL INTERSECTIONaDECIMAL EXPONENT SYMBOLaBLACK RIGHT-POINTING DOUBLE TRIANGLE",
  "bLEFT-POINTING DOUBLE TRIANGLEbUP-POINTING DOUBLE TRIANGLEbDOWN-POINTING DOUBLE TRIANGLE",
  "bRIGHT-POINTING DOUBLE TRIANGLE WITH VERTICAL BARbLEFT-POINTING DOUBLE TRIANGLE WITH VERTICAL BAR",
  "bRIGHT-POINTING TRIANGLE WITH DOUBLE VERTICAL BARaALARM CLOCKaSTOPWATCHaTIMER CLOCKaHOURGLASS WITH FLOWING SAND",
  "aBLACK MEDIUM LEFT-POINTING TRIANGLEcRIGHT-POINTING TRIANGLEcUP-POINTING TRIANGLEcDOWN-POINTING TRIANGLE",
  "aDOUBLE VERTICAL BARaBLACK SQUARE FOR STOPbCIRCLE FOR RECORDaPOWER SYMBOLbON-OFF SYMBOLbON SYMBOLbSLEEP SYMBOL",
  "aOBSERVER EYE SYMBOLaSYMBOL FOR NULLcSTART OF HEADINGeTEXTcEND OF TEXTeTRANSMISSIONcENQUIRYcACKNOWLEDGEcBELL",
  "cBACKSPACEcHORIZONTAL TABULATIONcLINE FEEDcVERTICAL TABULATIONcFORM FEEDcCARRIAGE RETURNcSHIFT OUTdIN",
  "cDATA LINK ESCAPEcDEVICE CONTROL ONEeTWOeTHREEeFOURcNEGATIVE ACKNOWLEDGEcSYNCHRONOUS IDLE",
  "cEND OF TRANSMISSION BLOCKcCANCELcEND OF MEDIUMcSUBSTITUTEcESCAPEcFILE SEPARATORcGROUP SEPARATOR",
  "cRECORD SEPARATORcUNIT SEPARATORcSPACEcDELETEaBLANK SYMBOLaOPEN BOXaSYMBOL FOR NEWLINEcDELETE FORM TWO",
  "cSUBSTITUTE FORM TWO",
  "2440 aOCR HOOKbCHAIRbFORKbINVERTED FORKbBELT BUCKLEbBOW TIEbBRANCH BANK IDENTIFICATIONbAMOUNT OF CHECKbDASH",
  "bCUSTOMER ACCOUNT NUMBERbDOUBLE BACKSLASH",
  "2460 aCIRCLED DIGIT ONEcTWOcTHREEcFOURcFIVEcSIXcSEVENcEIGHTcNINEbNUMBER TENcELEVENcTWELVEcTHIRTEENcFOURTEEN",
  "cFIFTEENcSIXTEENcSEVENTEENcEIGHTEENcNINETEENcTWENTYaPARENTHESIZED DIGIT ONEcTWOcTHREEcFOURcFIVEcSIXcSEVENcEIGHT",
  "cNINEbNUMBER TENcELEVENcTWELVEcTHIRTEENcFOURTEENcFIFTEENcSIXTEENcSEVENTEENcEIGHTEENcNINETEENcTWENTY",
  "aDIGIT ONE FULL STOPbTWO FULL STOPbTHREE FULL STOPbFOUR FULL STOPbFIVE FULL STOPbSIX FULL STOPbSEVEN FULL STOP",
  "bEIGHT FULL STOPbNINE FULL STOPaNUMBER TEN FULL STOPbELEVEN FULL STOPbTWELVE FULL STOPbTHIRTEEN FULL STOP",
  "bFOURTEEN FULL STOPbFIFTEEN FULL STOPbSIXTEEN FULL STOPbSEVENTEEN FULL STOPbEIGHTEEN FULL STOP",
  "bNINETEEN FULL STOPbTWENTY FULL STOPaPARENTHESIZED LATIN SMALL LETTER AeBeCeDeEeFeGeHeIeJeKeLeMeNeOePeQeReSeTeU",
  "eVeWeXeYeZaCIRCLED LATIN CAPITAL LETTER AeBeCeDeEeFeGeHeIeJeKeLeMeNeOePeQeReSeTeUeVeWeXeYeZcSMALL LETTER AeBeCeD",
  "eEeFeGeHeIeJeKeLeMeNeOePeQeReSeTeUeVeWeXeYeZbDIGIT ZEROaNEGATIVE CIRCLED NUMBER ELEVENdTWELVEdTHIRTEENdFOURTEEN",
  "dFIFTEENdSIXTEENdSEVENTEENdEIGHTEENdNINETEENdTWENTYaDOUBLE CIRCLED DIGIT ONEdTWOdTHREEdFOURdFIVEdSIXdSEVENdEIGHT",
  "dNINEcNUMBER TENaNEGATIVE CIRCLED DIGIT ZEROaBOX DRAWINGS LIGHT HORIZONTALcHEAVY HORIZONTALcLIGHT VERTICAL",
  "cHEAVY VERTICALcLIGHT TRIPLE DASH HORIZONTALcHEAVY TRIPLE DASH HORIZONTALcLIGHT TRIPLE DASH VERTICAL",
  "cHEAVY TRIPLE DASH VERTICALcLIGHT QUADRUPLE DASH HORIZONTALcHEAVY QUADRUPLE DASH HORIZONTAL",
  "cLIGHT QUADRUPLE DASH VERTICALcHEAVY QUADRUPLE DASH VERTICALcLIGHT DOWN AND RIGHTcDOWN LIGHT AND RIGHT HEAVY",
  "dHEAVY AND RIGHT LIGHTcHEAVY DOWN AND RIGHTcLIGHT DOWN AND LEFTcDOWN LIGHT AND LEFT HEAVYdHEAVY AND LEFT LIGHT",
  "cHEAVY DOWN AND LEFTcLIGHT UP AND RIGHTcUP LIGHT AND RIGHT HEAVYdHEAVY AND RIGHT LIGHTcHEAVY UP AND RIGHT",
  "cLIGHT UP AND LEFTcUP LIGHT AND LEFT HEAVYdHEAVY AND LEFT LIGHTcHEAVY UP AND LEFTcLIGHT VERTICAL AND RIGHT",
  "cVERTICAL LIGHT AND RIGHT HEAVYcUP HEAVY AND RIGHT DOWN LIGHTcDOWN HEAVY AND RIGHT UP LIGHT",
  "cVERTICAL HEAVY AND RIGHT LIGHTcDOWN LIGHT AND RIGHT UP HEAVYcUP LIGHT AND RIGHT DOWN HEAVY",
  "cHEAVY VERTICAL AND RIGHTcLIGHT VERTICAL AND LEFTcVERTICAL LIGHT AND LEFT HEAVYcUP HEAVY AND LEFT DOWN LIGHT",
  "cDOWN HEAVY AND LEFT UP LIGHTcVERTICAL HEAVY AND LEFT LIGHTcDOWN LIGHT AND LEFT UP HEAVY",
  "cUP LIGHT AND LEFT DOWN HEAVYcHEAVY VERTICAL AND LEFTcLIGHT DOWN AND HORIZONTALcLEFT HEAVY AND RIGHT DOWN LIGHT",
  "cRIGHT HEAVY AND LEFT DOWN LIGHTcDOWN LIGHT AND HORIZONTAL HEAVYdHEAVY AND HORIZONTAL LIGHT",
  "cRIGHT LIGHT AND LEFT DOWN HEAVYcLEFT LIGHT AND RIGHT DOWN HEAVYcHEAVY DOWN AND HORIZONTAL",
  "cLIGHT UP AND HORIZONTALcLEFT HEAVY AND RIGHT UP LIGHTcRIGHT HEAVY AND LEFT UP LIGHT",
  "cUP LIGHT AND HORIZONTAL HEAVYdHEAVY AND HORIZONTAL LIGHTcRIGHT LIGHT AND LEFT UP HEAVY",
  "cLEFT LIGHT AND RIGHT UP HEAVYcHEAVY UP AND HORIZONTALcLIGHT VERTICAL AND HORIZONTAL",
  "cLEFT HEAVY AND RIGHT VERTICAL LIGHTcRIGHT HEAVY AND LEFT VERTICAL LIGHTcVERTICAL LIGHT AND HORIZONTAL HEAVY",
  "cUP HEAVY AND DOWN HORIZONTAL LIGHTcDOWN HEAVY AND UP HORIZONTAL LIGHTcVERTICAL HEAVY AND HORIZONTAL LIGHT",
  "cLEFT UP HEAVY AND RIGHT DOWN LIGHTcRIGHT UP HEAVY AND LEFT DOWN LIGHTcLEFT DOWN HEAVY AND RIGHT UP LIGHT",
  "cRIGHT DOWN HEAVY AND LEFT UP LIGHTcDOWN LIGHT AND UP HORIZONTAL HEAVYcUP LIGHT AND DOWN HORIZONTAL HEAVY",
  "cRIGHT LIGHT AND LEFT VERTICAL HEAVYcLEFT LIGHT AND RIGHT VERTICAL HEAVYcHEAVY VERTICAL AND HORIZONTAL",
  "cLIGHT DOUBLE DASH HORIZONTALcHEAVY DOUBLE DASH HORIZONTALcLIGHT DOUBLE DASH VERTICALcHEAVY DOUBLE DASH VERTICAL",
  "cDOUBLE HORIZONTALdVERTICALcDOWN SINGLE AND RIGHT DOUBLEdDOUBLE AND RIGHT SINGLEcDOUBLE DOWN AND RIGHT",
  "cDOWN SINGLE AND LEFT DOUBLEdDOUBLE AND LEFT SINGLEcDOUBLE DOWN AND LEFTcUP SINGLE AND RIGHT DOUBLE",
  "dDOUBLE AND RIGHT SINGLEcDOUBLE UP AND RIGHTcUP SINGLE AND LEFT DOUBLEdDOUBLE AND LEFT SINGLEcDOUBLE UP AND LEFT",
  "cVERTICAL SINGLE AND RIGHT DOUBLEdDOUBLE AND RIGHT SINGLEcDOUBLE VERTICAL AND RIGHT",
  "cVERTICAL SINGLE AND LEFT DOUBLEdDOUBLE AND LEFT SINGLEcDOUBLE VERTICAL AND LEFT",
  "cDOWN SINGLE AND HORIZONTAL DOUBLEdDOUBLE AND HORIZONTAL SINGLEcDOUBLE DOWN AND HORIZONTAL",
  "cUP SINGLE AND HORIZONTAL DOUBLEdDOUBLE AND HORIZONTAL SINGLEcDOUBLE UP AND HORIZONTAL",
  "cVERTICAL SINGLE AND HORIZONTAL DOUBLEdDOUBLE AND HORIZONTAL SINGLEcDOUBLE VERTICAL AND HORIZONTAL",
  "cLIGHT ARC DOWN AND RIGHTgLEFTeUP AND LEFTgRIGHTdDIAGONAL UPPER RIGHT TO LOWER LEFTfLEFT TO LOWER RIGHTeCROSS",
  "dLEFTdUPdRIGHTdDOWNcHEAVY LEFTdUPdRIGHTdDOWNcLIGHT LEFT AND HEAVY RIGHTdUP AND HEAVY DOWN",
  "cHEAVY LEFT AND LIGHT RIGHTdUP AND LIGHT DOWNaUPPER HALF BLOCKaLOWER ONE EIGHTH BLOCKcQUARTER BLOCK",
  "bTHREE EIGHTHS BLOCKbHALF BLOCKbFIVE EIGHTHS BLOCKbTHREE QUARTERS BLOCKbSEVEN EIGHTHS BLOCKaFULL BLOCK",
  "aLEFT SEVEN EIGHTHS BLOCKbTHREE QUARTERS BLOCKbFIVE EIGHTHS BLOCKbHALF BLOCKbTHREE EIGHTHS BLOCK",
  "bONE QUARTER BLOCKcEIGHTH BLOCKaRIGHT HALF BLOCKaLIGHT SHADEaMEDIUM SHADEaDARK SHADEaUPPER ONE EIGHTH BLOCK",
  "aRIGHT ONE EIGHTH BLOCKaQUADRANT LOWER LEFTcRIGHTbUPPER LEFTdAND LOWER LEFT AND LOWER RIGHTfRIGHT",
  "eUPPER RIGHT AND LOWER LEFTiRIGHTcRIGHTdAND LOWER LEFTgAND LOWER RIGHTaBLACK SQUAREaWHITE SQUARE",
  "cWITH ROUNDED CORNERScCONTAINING BLACK SMALL SQUAREaSQUARE WITH HORIZONTAL FILLcVERTICAL FILL",
  "cORTHOGONAL CROSSHATCH FILLcUPPER LEFT TO LOWER RIGHT FILLdRIGHT TO LOWER LEFT FILLcDIAGONAL CROSSHATCH FILL",
  "aBLACK SMALL SQUAREaWHITE SMALL SQUAREaBLACK RECTANGLEaWHITE RECTANGLEaBLACK VERTICAL RECTANGLE",
  "aWHITE VERTICAL RECTANGLEaBLACK PARALLELOGRAMaWHITE PARALLELOGRAMaBLACK UP-POINTING TRIANGLE",
  "aWHITE UP-POINTING TRIANGLEaBLACK UP-POINTING SMALL TRIANGLEaWHITE UP-POINTING SMALL TRIANGLE",
  "aBLACK RIGHT-POINTING TRIANGLEaWHITE RIGHT-POINTING TRIANGLEaBLACK RIGHT-POINTING SMALL TRIANGLE",
  "aWHITE RIGHT-POINTING SMALL TRIANGLEaBLACK RIGHT-POINTING POINTERaWHITE RIGHT-POINTING POINTER",
  "aBLACK DOWN-POINTING TRIANGLEaWHITE DOWN-POINTING TRIANGLEaBLACK DOWN-POINTING SMALL TRIANGLE",
  "aWHITE DOWN-POINTING SMALL TRIANGLEaBLACK LEFT-POINTING TRIANGLEaWHITE LEFT-POINTING TRIANGLE",
  "aBLACK LEFT-POINTING SMALL TRIANGLEaWHITE LEFT-POINTING SMALL TRIANGLEaBLACK LEFT-POINTING POINTER",
  "aWHITE LEFT-POINTING POINTERaBLACK DIAMONDaWHITE DIAMONDcCONTAINING BLACK SMALL DIAMONDaFISHEYEaLOZENGE",
  "aWHITE CIRCLEaDOTTED CIRCLEaCIRCLE WITH VERTICAL FILLaBULLSEYEaBLACK CIRCLEaCIRCLE WITH LEFT HALF BLACK",
  "cRIGHT HALF BLACKcLOWER HALF BLACKcUPPER HALF BLACKdRIGHT QUADRANT BLACKcALL BUT UPPER LEFT QUADRANT BLACK",
  "aLEFT HALF BLACK CIRCLEaRIGHT HALF BLACK CIRCLEaINVERSE BULLETbWHITE CIRCLEaUPPER HALF INVERSE WHITE CIRCLE",
  "aLOWER HALF INVERSE WHITE CIRCLEaUPPER LEFT QUADRANT CIRCULAR ARCbRIGHT QUADRANT CIRCULAR ARC",
  "aLOWER RIGHT QUADRANT CIRCULAR ARCbLEFT QUADRANT CIRCULAR ARCaUPPER HALF CIRCLEaLOWER HALF CIRCLE",
  "aBLACK LOWER RIGHT TRIANGLEcLEFT TRIANGLEbUPPER LEFT TRIANGLEcRIGHT TRIANGLEaWHITE BULLET",
  "aSQUARE WITH LEFT HALF BLACKcRIGHT HALF BLACKcUPPER LEFT DIAGONAL HALF BLACKcLOWER RIGHT DIAGONAL HALF BLACK",
  "aWHITE SQUARE WITH VERTICAL BISECTING LINEbUP-POINTING TRIANGLE WITH DOT",
  "aUP-POINTING TRIANGLE WITH LEFT HALF BLACKdRIGHT HALF BLACKaLARGE CIRCLEaWHITE SQUARE WITH UPPER LEFT QUADRANT",
  "dLOWER LEFT QUADRANTeRIGHT QUADRANTdUPPER RIGHT QUADRANTbCIRCLE WITH UPPER LEFT QUADRANTdLOWER LEFT QUADRANT",
  "eRIGHT QUADRANTdUPPER RIGHT QUADRANTaUPPER LEFT TRIANGLEbRIGHT TRIANGLEaLOWER LEFT TRIANGLEaWHITE MEDIUM SQUARE",
  "aBLACK MEDIUM SQUAREaWHITE MEDIUM SMALL SQUAREaBLACK MEDIUM SMALL SQUAREaLOWER RIGHT TRIANGLE",
  "aBLACK SUN WITH RAYSaCLOUDaUMBRELLAaSNOWMANaCOMETaBLACK STARaWHITE STARaLIGHTNINGaTHUNDERSTORMaSUN",
  "aASCENDING NODEaDESCENDING NODEaCONJUNCTIONaOPPOSITIONaBLACK TELEPHONEaWHITE TELEPHONEaBALLOT BOXcWITH CHECKdX",
  "aSALTIREaUMBRELLA WITH RAIN DROPSaHOT BEVERAGEaWHITE SHOGI PIECEaBLACK SHOGI PIECEaSHAMROCK",
  "aREVERSED ROTATED FLORAL HEART BULLETaBLACK LEFT POINTING INDEXbRIGHT POINTING INDEXaWHITE LEFT POINTING INDEX",
  "bUP POINTING INDEXbRIGHT POINTING INDEXbDOWN POINTING INDEXaSKULL AND CROSSBONESaCAUTION SIGNaRADIOACTIVE SIGN",
  "aBIOHAZARD SIGNaCADUCEUSaANKHaORTHODOX CROSSaCHI RHOaCROSS OF LORRAINEcJERUSALEMaSTAR AND CRESCENTaFARSI SYMBOL",
  "aADI SHAKTIaHAMMER AND SICKLEaPEACE SYMBOLaYIN YANGaTRIGRAM FOR HEAVENcLAKEcFIREcTHUNDERcWINDcWATERcMOUNTAIN",
  "cEARTHaWHEEL OF DHARMAaWHITE FROWNING FACEbSMILING FACEaBLACK SMILING FACEaWHITE SUN WITH RAYS",
  "aFIRST QUARTER MOONaLAST QUARTER MOONaMERCURYaFEMALE SIGNaEARTHaMALE SIGNaJUPITERaSATURNaURANUSaNEPTUNEaPLUTO",
  "aARIESaTAURUSaGEMINIaCANCERaLEOaVIRGOaLIBRAaSCORPIUSaSAGITTARIUSaCAPRICORNaAQUARIUSaPISCESaWHITE CHESS KING",
  "cQUEENcROOKcBISHOPcKNIGHTcPAWNaBLACK CHESS KINGcQUEENcROOKcBISHOPcKNIGHTcPAWNbSPADE SUITaWHITE HEART SUIT",
  "bDIAMOND SUITaBLACK CLUB SUITaWHITE SPADE SUITaBLACK HEART SUITbDIAMOND SUITaWHITE CLUB SUITaHOT SPRINGS",
  "aQUARTER NOTEaEIGHTH NOTEaBEAMED EIGHTH NOTESbSIXTEENTH NOTESaMUSIC FLAT SIGNbNATURAL SIGNbSHARP SIGN",
  "aWEST SYRIAC CROSSaEAST SYRIAC CROSSaUNIVERSAL RECYCLING SYMBOLaRECYCLING SYMBOL FOR TYPE-1 PLASTICS",
  "dTYPE-2 PLASTICSdTYPE-3 PLASTICSdTYPE-4 PLASTICSdTYPE-5 PLASTICSdTYPE-6 PLASTICSdTYPE-7 PLASTICS",
  "dGENERIC MATERIALSaBLACK UNIVERSAL RECYCLING SYMBOLaRECYCLED PAPER SYMBOLaPARTIALLY-RECYCLED PAPER SYMBOL",
  "aPERMANENT PAPER SIGNaWHEELCHAIR SYMBOLaDIE FACE-1+++++aWHITE CIRCLE WITH DOT RIGHTdTWO DOTS",
  "aBLACK CIRCLE WITH WHITE DOT RIGHTdTWO WHITE DOTSaMONOGRAM FOR YANGcYINaDIGRAM FOR GREATER YANGcLESSER YINdYANG",
  "cGREATER YINaWHITE FLAGaBLACK FLAGaHAMMER AND PICKaANCHORaCROSSED SWORDSaSTAFF OF AESCULAPIUSaSCALESaALEMBIC",
  "aFLOWERaGEARaSTAFF OF HERMESaATOM SYMBOLaFLEUR-DE-LISaOUTLINED WHITE STARaTHREE LINES CONVERGING RIGHTdLEFT",
  "aWARNING SIGNaHIGH VOLTAGE SIGNaDOUBLED FEMALE SIGNbMALE SIGNaINTERLOCKED FEMALE AND MALE SIGN",
  "aMALE AND FEMALE SIGNbWITH STROKE SIGNdAND MALE AND FEMALE SIGNaVERTICAL MALE WITH STROKE SIGN",
  "aHORIZONTAL MALE WITH STROKE SIGNaMEDIUM WHITE CIRCLEbBLACK CIRCLEbSMALL WHITE CIRCLEaMARRIAGE SYMBOL",
  "aDIVORCE SYMBOLaUNMARRIED PARTNERSHIP SYMBOLaCOFFINaFUNERAL URNaNEUTERaCERESaPALLASaJUNOaVESTAaCHIRON",
  "aBLACK MOON LILITHaSEXTILEaSEMISEXTILEaQUINCUNXaSESQUIQUADRATEaSOCCER BALLaBASEBALLaSQUARED KEY",
  "aWHITE DRAUGHTS MANcKINGaBLACK DRAUGHTS MANcKINGaSNOWMAN WITHOUT SNOWaSUN BEHIND CLOUDaRAINaBLACK SNOWMAN",
  "aTHUNDER CLOUD AND RAINaTURNED WHITE SHOGI PIECEbBLACK SHOGI PIECEaWHITE DIAMOND IN SQUAREaCROSSING LANES",
  "aDISABLED CARaOPHIUCHUSaPICKaCAR SLIDINGaHELMET WITH WHITE CROSSaCIRCLED CROSSING LANESaCHAINSaNO ENTRY",
  "aALTERNATE ONE-WAY LEFT WAY TRAFFICaBLACK TWO-WAY LEFT WAY TRAFFICaWHITE TWO-WAY LEFT WAY TRAFFIC",
  "aBLACK LEFT LANE MERGEaWHITE LEFT LANE MERGEaDRIVE SLOW SIGNaHEAVY WHITE DOWN-POINTING TRIANGLE",
  "aLEFT CLOSED ENTRYaSQUARED SALTIREaFALLING DIAGONAL IN WHITE CIRCLE IN BLACK SQUAREaBLACK TRUCK",
  "aRESTRICTED LEFT ENTRY-1+aASTRONOMICAL SYMBOL FOR URANUSaHEAVY CIRCLE WITH STROKE AND TWO DOTS ABOVEaPENTAGRAM",
  "aRIGHT-HANDED INTERLACED PENTAGRAMaLEFT-HANDED INTERLACED PENTAGRAMaINVERTED PENTAGRAMaBLACK CROSS ON SHIELD",
  "aSHINTO SHRINEaCHURCHaCASTLEaHISTORIC SITEaGEAR WITHOUT HUBbWITH HANDLESaMAP SYMBOL FOR LIGHTHOUSEaMOUNTAIN",
  "aUMBRELLA ON GROUNDaFOUNTAINaFLAG IN HOLEaFERRYaSAILBOATaSQUARE FOUR CORNERSaSKIERaICE SKATEaPERSON WITH BALL",
  "aTENTaJAPANESE BANK SYMBOLaHEADSTONE GRAVEYARD SYMBOLaFUEL PUMPaCUP ON BLACK SQUARE",
  "aWHITE FLAG WITH HORIZONTAL MIDDLE BLACK STRIPEaBLACK SAFETY SCISSORSaUPPER BLADE SCISSORSaBLACK SCISSORS",
  "aLOWER BLADE SCISSORSaWHITE SCISSORSbHEAVY CHECK MARKaTELEPHONE LOCATION SIGNaTAPE DRIVEaAIRPLANEaENVELOPE",
  "aRAISED FISTbHANDaVICTORY HANDaWRITING HANDaLOWER RIGHT PENCILaPENCILaUPPER RIGHT PENCILaWHITE NIBaBLACK NIB",
  "aCHECK MARKaHEAVY CHECK MARKaMULTIPLICATION XaHEAVY MULTIPLICATION XaBALLOT XaHEAVY BALLOT X",
  "aOUTLINED GREEK CROSSaHEAVY GREEK CROSSaOPEN CENTRE CROSSaHEAVY OPEN CENTRE CROSSaLATIN CROSS",
  "aSHADOWED WHITE LATIN CROSSaOUTLINED LATIN CROSSaMALTESE CROSSaSTAR OF DAVIDaFOUR TEARDROP-SPOKED ASTERISK",
  "bBALLOON-SPOKED ASTERISKaHEAVY FOUR BALLOON-SPOKED ASTERISKaFOUR CLUB-SPOKED ASTERISKaBLACK FOUR POINTED STAR",
  "aWHITE FOUR POINTED STARaSPARKLESaSTRESS OUTLINED WHITE STARaCIRCLED WHITE STARaOPEN CENTRE BLACK STAR",
  "aBLACK CENTRE WHITE STARaOUTLINED BLACK STARaHEAVY OUTLINED BLACK STARaPINWHEEL STARaSHADOWED WHITE STAR",
  "aHEAVY ASTERISKaOPEN CENTRE ASTERISKaEIGHT SPOKED ASTERISKbPOINTED BLACK STARcPINWHEEL STAR",
  "aSIX POINTED BLACK STARaEIGHT POINTED RECTILINEAR BLACK STARaHEAVY EIGHT POINTED RECTILINEAR BLACK STAR",
  "aTWELVE POINTED BLACK STARaSIXTEEN POINTED ASTERISKaTEARDROP-SPOKED ASTERISK",
  "aOPEN CENTRE TEARDROP-SPOKED ASTERISKaHEAVY TEARDROP-SPOKED ASTERISKaSIX PETALLED BLACK AND WHITE FLORETTE",
  "aBLACK FLORETTEaWHITE FLORETTEaEIGHT PETALLED OUTLINED BLACK FLORETTEaCIRCLED OPEN CENTRE EIGHT POINTED STAR",
  "aHEAVY TEARDROP-SPOKED PINWHEEL ASTERISKaSNOWFLAKEaTIGHT TRIFOLIATE SNOWFLAKEaHEAVY CHEVRON SNOWFLAKEaSPARKLE",
  "aHEAVY SPARKLEaBALLOON-SPOKED ASTERISKaEIGHT TEARDROP-SPOKED PROPELLER ASTERISK",
  "aHEAVY EIGHT TEARDROP-SPOKED PROPELLER ASTERISKaCROSS MARKaSHADOWED WHITE CIRCLEaNEGATIVE SQUARED CROSS MARK",
  "aLOWER RIGHT DROP-SHADOWED WHITE SQUAREaUPPER RIGHT DROP-SHADOWED WHITE SQUAREaLOWER RIGHT SHADOWED WHITE SQUARE",
  "aUPPER RIGHT SHADOWED WHITE SQUAREaBLACK QUESTION MARK ORNAMENTaWHITE QUESTION MARK ORNAMENT",
  "bEXCLAMATION MARK ORNAMENTaBLACK DIAMOND MINUS WHITE XaHEAVY EXCLAMATION MARK SYMBOLaLIGHT VERTICAL BAR",
  "aMEDIUM VERTICAL BARaHEAVY VERTICAL BARbSINGLE TURNED COMMA QUOTATION MARK ORNAMENT",
  "cCOMMA QUOTATION MARK ORNAMENTbDOUBLE TURNED COMMA QUOTATION MARK ORNAMENTcCOMMA QUOTATION MARK ORNAMENT",
  "bLOW SINGLE COMMA QUOTATION MARK ORNAMENTcDOUBLE COMMA QUOTATION MARK ORNAMENT",
  "aCURVED STEM PARAGRAPH SIGN ORNAMENTaHEAVY EXCLAMATION MARK ORNAMENTbHEART EXCLAMATION MARK ORNAMENTbBLACK HEART",
  "aROTATED HEAVY BLACK HEART BULLETaFLORAL HEARTaROTATED FLORAL HEART BULLETaMEDIUM LEFT PARENTHESIS ORNAMENT",
  "bRIGHT PARENTHESIS ORNAMENTbFLATTENED LEFT PARENTHESIS ORNAMENTcRIGHT PARENTHESIS ORNAMENT",
  "bLEFT-POINTING ANGLE BRACKET ORNAMENTbRIGHT-POINTING ANGLE BRACKET ORNAMENT",
  "aHEAVY LEFT-POINTING ANGLE QUOTATION MARK ORNAMENTbRIGHT-POINTING ANGLE QUOTATION MARK ORNAMENT",
  "bLEFT-POINTING ANGLE BRACKET ORNAMENTbRIGHT-POINTING ANGLE BRACKET ORNAMENT",
  "aLIGHT LEFT TORTOISE SHELL BRACKET ORNAMENTbRIGHT TORTOISE SHELL BRACKET ORNAMENT",
  "aMEDIUM LEFT CURLY BRACKET ORNAMENTbRIGHT CURLY BRACKET ORNAMENTaDINGBAT NEGATIVE CIRCLED DIGIT ONEeTWOeTHREE",
  "eFOUReFIVEeSIXeSEVENeEIGHTeNINEdNUMBER TENbCIRCLED SANS-SERIF DIGIT ONEeTWOeTHREEeFOUReFIVEeSIXeSEVENeEIGHTeNINE",
  "dNUMBER TENbNEGATIVE CIRCLED SANS-SERIF DIGIT ONEfTWOfTHREEfFOURfFIVEfSIXfSEVENfEIGHTfNINEeNUMBER TEN",
  "aHEAVY WIDE-HEADED RIGHTWARDS ARROWbPLUS SIGNbMINUS SIGNbDIVISION SIGNbSOUTH EAST ARROWbRIGHTWARDS ARROW",
  "bNORTH EAST ARROWaDRAFTING POINT RIGHTWARDS ARROWaHEAVY ROUND-TIPPED RIGHTWARDS ARROW",
  "aTRIANGLE-HEADED RIGHTWARDS ARROWaHEAVY TRIANGLE-HEADED RIGHTWARDS ARROWaDASHED TRIANGLE-HEADED RIGHTWARDS ARROW",
  "aHEAVY DASHED TRIANGLE-HEADED RIGHTWARDS ARROWaBLACK RIGHTWARDS ARROWaTHREE-D TOP-LIGHTED RIGHTWARDS ARROWHEAD",
  "bBOTTOM-LIGHTED RIGHTWARDS ARROWHEADaBLACK RIGHTWARDS ARROWHEAD",
  "aHEAVY BLACK CURVED DOWNWARDS AND RIGHTWARDS ARROWdUPWARDS AND RIGHTWARDS ARROWaSQUAT BLACK RIGHTWARDS ARROW",
  "aHEAVY CONCAVE-POINTED BLACK RIGHTWARDS ARROWaRIGHT-SHADED WHITE RIGHTWARDS ARROW",
  "aLEFT-SHADED WHITE RIGHTWARDS ARROWaBACK-TILTED SHADOWED WHITE RIGHTWARDS ARROW",
  "aFRONT-TILTED SHADOWED WHITE RIGHTWARDS ARROWaHEAVY LOWER RIGHT-SHADOWED WHITE RIGHTWARDS ARROW",
  "bUPPER RIGHT-SHADOWED WHITE RIGHTWARDS ARROWaNOTCHED LOWER RIGHT-SHADOWED WHITE RIGHTWARDS ARROWaCURLY LOOP",
  "aNOTCHED UPPER RIGHT-SHADOWED WHITE RIGHTWARDS ARROWaCIRCLED HEAVY WHITE RIGHTWARDS ARROW",
  "aWHITE-FEATHERED RIGHTWARDS ARROWaBLACK-FEATHERED SOUTH EAST ARROWbRIGHTWARDS ARROWbNORTH EAST ARROW",
  "aHEAVY BLACK-FEATHERED SOUTH EAST ARROWcRIGHTWARDS ARROWcNORTH EAST ARROWaTEARDROP-BARBED RIGHTWARDS ARROW",
  "aHEAVY TEARDROP-SHANKED RIGHTWARDS ARROWaWEDGE-TAILED RIGHTWARDS ARROWaHEAVY WEDGE-TAILED RIGHTWARDS ARROW",
  "aOPEN-OUTLINED RIGHTWARDS ARROWaDOUBLE CURLY LOOPaTHREE DIMENSIONAL ANGLE",
  "aWHITE TRIANGLE CONTAINING SMALL WHITE TRIANGLEaPERPENDICULARaOPEN SUBSETbSUPERSETaLEFT S-SHAPED BAG DELIMITER",
  "aRIGHT S-SHAPED BAG DELIMITERaOR WITH DOT INSIDEaREVERSE SOLIDUS PRECEDING SUBSETaSUPERSET PRECEDING SOLIDUS",
  "aVERTICAL BAR WITH HORIZONTAL STROKEaMATHEMATICAL RISING DIAGONALaLONG DIVISIONaMATHEMATICAL FALLING DIAGONAL",
  "aSQUARED LOGICAL ANDcORaWHITE DIAMOND WITH CENTRED DOTaAND WITH DOTaELEMENT OF OPENING UPWARDS",
  "aLOWER RIGHT CORNER WITH DOTaUPPER LEFT CORNER WITH DOTaLEFT OUTER JOINaRIGHT OUTER JOINaFULL OUTER JOIN",
  "aLARGE UP TACKbDOWN TACKaLEFT AND RIGHT DOUBLE TURNSTILEdTACKbMULTIMAPaLONG RIGHT TACKbLEFT TACK",
  "aUP TACK WITH CIRCLE ABOVEaLOZENGE DIVIDED BY HORIZONTAL RULEaWHITE CONCAVE-SIDED DIAMONDdWITH LEFTWARDS TICK",
  "eRIGHTWARDS TICKbSQUARE WITH LEFTWARDS TICKdRIGHTWARDS TICKaMATHEMATICAL LEFT WHITE SQUARE BRACKET",
  "bRIGHT WHITE SQUARE BRACKETbLEFT ANGLE BRACKETbRIGHT ANGLE BRACKETbLEFT DOUBLE ANGLE BRACKET",
  "bRIGHT DOUBLE ANGLE BRACKETbLEFT WHITE TORTOISE SHELL BRACKETbRIGHT WHITE TORTOISE SHELL BRACKET",
  "bLEFT FLATTENED PARENTHESISbRIGHT FLATTENED PARENTHESISaUPWARDS QUADRUPLE ARROWaDOWNWARDS QUADRUPLE ARROW",
  "aANTICLOCKWISE GAPPED CIRCLE ARROWaCLOCKWISE GAPPED CIRCLE ARROWaRIGHT ARROW WITH CIRCLED PLUS",
  "aLONG LEFTWARDS ARROWbRIGHTWARDS ARROWbLEFT RIGHT ARROWbLEFTWARDS DOUBLE ARROWbRIGHTWARDS DOUBLE ARROW",
  "bLEFT RIGHT DOUBLE ARROWbLEFTWARDS ARROW FROM BARbRIGHTWARDS ARROW FROM BARbLEFTWARDS DOUBLE ARROW FROM BAR",
  "bRIGHTWARDS DOUBLE ARROW FROM BARcSQUIGGLE ARROWaBRAILLE PATTERN BLANKcDOTS-1+cDOTS-12cDOTS-3cDOTS-13cDOTS-23",
  "cDOTS-123cDOTS-4cDOTS-14cDOTS-24cDOTS-124cDOTS-34cDOTS-134cDOTS-234cDOTS-1234cDOTS-5cDOTS-15cDOTS-25cDOTS-125",
  "cDOTS-35cDOTS-135cDOTS-235cDOTS-1235cDOTS-45cDOTS-145cDOTS-245cDOTS-1245cDOTS-345cDOTS-1345cDOTS-2345cDOTS-12345",
  "cDOTS-6cDOTS-16cDOTS-26cDOTS-126cDOTS-36cDOTS-136cDOTS-236cDOTS-1236cDOTS-46cDOTS-146cDOTS-246cDOTS-1246",
  "cDOTS-346cDOTS-1346cDOTS-2346cDOTS-12346cDOTS-56cDOTS-156cDOTS-256cDOTS-1256cDOTS-356cDOTS-1356cDOTS-2356",
  "cDOTS-12356cDOTS-456cDOTS-1456cDOTS-2456cDOTS-12456cDOTS-3456cDOTS-13456cDOTS-23456cDOTS-123456cDOTS-7cDOTS-17",
  "cDOTS-27cDOTS-127cDOTS-37cDOTS-137cDOTS-237cDOTS-1237cDOTS-47cDOTS-147cDOTS-247cDOTS-1247cDOTS-347cDOTS-1347",
  "cDOTS-2347cDOTS-12347cDOTS-57cDOTS-157cDOTS-257cDOTS-1257cDOTS-357cDOTS-1357cDOTS-2357cDOTS-12357cDOTS-457",
  "cDOTS-1457cDOTS-2457cDOTS-12457cDOTS-3457cDOTS-13457cDOTS-23457cDOTS-123457cDOTS-67cDOTS-167cDOTS-267cDOTS-1267",
  "cDOTS-367cDOTS-1367cDOTS-2367cDOTS-12367cDOTS-467cDOTS-1467cDOTS-2467cDOTS-12467cDOTS-3467cDOTS-13467cDOTS-23467",
  "cDOTS-123467cDOTS-567cDOTS-1567cDOTS-2567cDOTS-12567cDOTS-3567cDOTS-13567cDOTS-23567cDOTS-123567cDOTS-4567",
  "cDOTS-14567cDOTS-24567cDOTS-124567cDOTS-34567cDOTS-134567cDOTS-234567cDOTS-1234567cDOTS-8cDOTS-18cDOTS-28",
  "cDOTS-128cDOTS-38cDOTS-138cDOTS-238cDOTS-1238cDOTS-48cDOTS-148cDOTS-248cDOTS-1248cDOTS-348cDOTS-1348cDOTS-2348",
  "cDOTS-12348cDOTS-58cDOTS-158cDOTS-258cDOTS-1258cDOTS-358cDOTS-1358cDOTS-2358cDOTS-12358cDOTS-458cDOTS-1458",
  "cDOTS-2458cDOTS-12458cDOTS-3458cDOTS-13458cDOTS-23458cDOTS-123458cDOTS-68cDOTS-168cDOTS-268cDOTS-1268cDOTS-368",
  "cDOTS-1368cDOTS-2368cDOTS-12368cDOTS-468cDOTS-1468cDOTS-2468cDOTS-12468cDOTS-3468cDOTS-13468cDOTS-23468",
  "cDOTS-123468cDOTS-568cDOTS-1568cDOTS-2568cDOTS-12568cDOTS-3568cDOTS-13568cDOTS-23568cDOTS-123568cDOTS-4568",
  "cDOTS-14568cDOTS-24568cDOTS-124568cDOTS-34568cDOTS-134568cDOTS-234568cDOTS-1234568cDOTS-78cDOTS-178cDOTS-278",
  "cDOTS-1278cDOTS-378cDOTS-1378cDOTS-2378cDOTS-12378cDOTS-478cDOTS-1478cDOTS-2478cDOTS-12478cDOTS-3478cDOTS-13478",
  "cDOTS-23478cDOTS-123478cDOTS-578cDOTS-1578cDOTS-2578cDOTS-12578cDOTS-3578cDOTS-13578cDOTS-23578cDOTS-123578",
  "cDOTS-4578cDOTS-14578cDOTS-24578cDOTS-124578cDOTS-34578cDOTS-134578cDOTS-234578cDOTS-1234578cDOTS-678cDOTS-1678",
  "cDOTS-2678cDOTS-12678cDOTS-3678cDOTS-13678cDOTS-23678cDOTS-123678cDOTS-4678cDOTS-14678cDOTS-24678cDOTS-124678",
  "cDOTS-34678cDOTS-134678cDOTS-234678cDOTS-1234678cDOTS-5678cDOTS-15678cDOTS-25678cDOTS-125678cDOTS-35678",
  "cDOTS-135678cDOTS-235678cDOTS-1235678cDOTS-45678cDOTS-145678cDOTS-245678cDOTS-1245678cDOTS-345678cDOTS-1345678",
  "cDOTS-2345678cDOTS-12345678aRIGHTWARDS TWO-HEADED ARROW WITH VERTICAL STROKEeDOUBLE VERTICAL STROKE",
  "aLEFTWARDS DOUBLE ARROW WITH VERTICAL STROKEaRIGHTWARDS DOUBLE ARROW WITH VERTICAL STROKE",
  "aLEFT RIGHT DOUBLE ARROW WITH VERTICAL STROKEaRIGHTWARDS TWO-HEADED ARROW FROM BAR",
  "aLEFTWARDS DOUBLE ARROW FROM BARaRIGHTWARDS DOUBLE ARROW FROM BARaDOWNWARDS ARROW WITH HORIZONTAL STROKE",
  "aUPWARDS ARROW WITH HORIZONTAL STROKEbTRIPLE ARROWaDOWNWARDS TRIPLE ARROWaLEFTWARDS DOUBLE DASH ARROW",
  "aRIGHTWARDS DOUBLE DASH ARROWaLEFTWARDS TRIPLE DASH ARROWaRIGHTWARDS TRIPLE DASH ARROW",
  "bTWO-HEADED TRIPLE DASH ARROWbARROW WITH DOTTED STEMaUPWARDS ARROW TO BARaDOWNWARDS ARROW TO BAR",
  "aRIGHTWARDS ARROW WITH TAIL WITH VERTICAL STROKEfDOUBLE VERTICAL STROKEbTWO-HEADED ARROW WITH TAIL",
  "fWITH VERTICAL STROKEgDOUBLE VERTICAL STROKEaLEFTWARDS ARROW-TAILaRIGHTWARDS ARROW-TAIL",
  "aLEFTWARDS DOUBLE ARROW-TAILaRIGHTWARDS DOUBLE ARROW-TAILaLEFTWARDS ARROW TO BLACK DIAMOND",
  "aRIGHTWARDS ARROW TO BLACK DIAMONDaLEFTWARDS ARROW FROM BAR TO BLACK DIAMOND",
  "aRIGHTWARDS ARROW FROM BAR TO BLACK DIAMONDaNORTH WEST AND SOUTH EAST ARROWbEAST AND SOUTH WEST ARROW",
  "bWEST ARROW WITH HOOKbEAST ARROW WITH HOOKaSOUTH EAST ARROW WITH HOOKbWEST ARROW WITH HOOK",
  "aNORTH WEST ARROW AND NORTH EAST ARROWbEAST ARROW AND SOUTH EAST ARROWaSOUTH EAST ARROW AND SOUTH WEST ARROW",
  "bWEST ARROW AND NORTH WEST ARROWaRISING DIAGONAL CROSSING FALLING DIAGONAL",
  "aFALLING DIAGONAL CROSSING RISING DIAGONALaSOUTH EAST ARROW CROSSING NORTH EAST ARROW",
  "aNORTH EAST ARROW CROSSING SOUTH EAST ARROWaFALLING DIAGONAL CROSSING NORTH EAST ARROW",
  "aRISING DIAGONAL CROSSING SOUTH EAST ARROWaNORTH EAST ARROW CROSSING NORTH WEST ARROW",
  "bWEST ARROW CROSSING NORTH EAST ARROWaWAVE ARROW POINTING DIRECTLY RIGHT",
  "aARROW POINTING RIGHTWARDS THEN CURVING UPWARDSfDOWNWARDScDOWNWARDS THEN CURVING LEFTWARDSfRIGHTWARDS",
  "aRIGHT-SIDE ARC CLOCKWISE ARROWaLEFT-SIDE ARC ANTICLOCKWISE ARROWaTOP ARC ANTICLOCKWISE ARROW",
  "aBOTTOM ARC ANTICLOCKWISE ARROWaTOP ARC CLOCKWISE ARROW WITH MINUScANTICLOCKWISE ARROW WITH PLUS",
  "aLOWER RIGHT SEMICIRCULAR CLOCKWISE ARROWbLEFT SEMICIRCULAR ANTICLOCKWISE ARROW",
  "aANTICLOCKWISE CLOSED CIRCLE ARROWaCLOCKWISE CLOSED CIRCLE ARROWaRIGHTWARDS ARROW ABOVE SHORT LEFTWARDS ARROW",
  "aLEFTWARDS ARROW ABOVE SHORT RIGHTWARDS ARROWaSHORT RIGHTWARDS ARROW ABOVE LEFTWARDS ARROW",
  "aRIGHTWARDS ARROW WITH PLUS BELOWaLEFTWARDS ARROW WITH PLUS BELOWaRIGHTWARDS ARROW THROUGH X",
  "aLEFT RIGHT ARROW THROUGH SMALL CIRCLEaUPWARDS TWO-HEADED ARROW FROM SMALL CIRCLE",
  "aLEFT BARB UP RIGHT BARB DOWN HARPOONcDOWN RIGHT BARB UP HARPOONaUP BARB RIGHT DOWN BARB LEFT HARPOON",
  "cLEFT DOWN BARB RIGHT HARPOONaLEFT BARB UP RIGHT BARB UP HARPOONaUP BARB RIGHT DOWN BARB RIGHT HARPOON",
  "aLEFT BARB DOWN RIGHT BARB DOWN HARPOONaUP BARB LEFT DOWN BARB LEFT HARPOON",
  "aLEFTWARDS HARPOON WITH BARB UP TO BARaRIGHTWARDS HARPOON WITH BARB UP TO BAR",
  "aUPWARDS HARPOON WITH BARB RIGHT TO BARaDOWNWARDS HARPOON WITH BARB RIGHT TO BAR",
  "aLEFTWARDS HARPOON WITH BARB DOWN TO BARaRIGHTWARDS HARPOON WITH BARB DOWN TO BAR",
  "aUPWARDS HARPOON WITH BARB LEFT TO BARaDOWNWARDS HARPOON WITH BARB LEFT TO BAR",
  "aLEFTWARDS HARPOON WITH BARB UP FROM BARaRIGHTWARDS HARPOON WITH BARB UP FROM BAR",
  "aUPWARDS HARPOON WITH BARB RIGHT FROM BARaDOWNWARDS HARPOON WITH BARB RIGHT FROM BAR",
  "aLEFTWARDS HARPOON WITH BARB DOWN FROM BARaRIGHTWARDS HARPOON WITH BARB DOWN FROM BAR",
  "aUPWARDS HARPOON WITH BARB LEFT FROM BARaDOWNWARDS HARPOON WITH BARB LEFT FROM BAR",
  "aLEFTWARDS HARPOON WITH BARB UP ABOVE LEFTWARDS HARPOON WITH BARB DOWN",
  "aUPWARDS HARPOON WITH BARB LEFT BESIDE UPWARDS HARPOON WITH BARB RIGHT",
  "aRIGHTWARDS HARPOON WITH BARB UP ABOVE RIGHTWARDS HARPOON WITH BARB DOWN",
  "aDOWNWARDS HARPOON WITH BARB LEFT BESIDE DOWNWARDS HARPOON WITH BARB RIGHT",
  "aLEFTWARDS HARPOON WITH BARB UP ABOVE RIGHTWARDS HARPOON WITH BARB UP",
  "eDOWN ABOVE RIGHTWARDS HARPOON WITH BARB DOWN",
  "aRIGHTWARDS HARPOON WITH BARB UP ABOVE LEFTWARDS HARPOON WITH BARB UP",
  "eDOWN ABOVE LEFTWARDS HARPOON WITH BARB DOWNaLEFTWARDS HARPOON WITH BARB UP ABOVE LONG DASHeDOWN BELOW LONG DASH",
  "aRIGHTWARDS HARPOON WITH BARB UP ABOVE LONG DASHeDOWN BELOW LONG DASH",
  "aUPWARDS HARPOON WITH BARB LEFT BESIDE DOWNWARDS HARPOON WITH BARB RIGHT",
  "aDOWNWARDS HARPOON WITH BARB LEFT BESIDE UPWARDS HARPOON WITH BARB RIGHTaRIGHT DOUBLE ARROW WITH ROUNDED HEAD",
  "aEQUALS SIGN ABOVE RIGHTWARDS ARROWaTILDE OPERATOR ABOVE RIGHTWARDS ARROWaLEFTWARDS ARROW ABOVE TILDE OPERATOR",
  "aRIGHTWARDS ARROW ABOVE TILDE OPERATORdALMOST EQUAL TOaLESS-THAN ABOVE LEFTWARDS ARROW",
  "aLEFTWARDS ARROW THROUGH LESS-THANaGREATER-THAN ABOVE RIGHTWARDS ARROWaSUBSET ABOVE RIGHTWARDS ARROW",
  "aLEFTWARDS ARROW THROUGH SUBSETaSUPERSET ABOVE LEFTWARDS ARROWaLEFT FISH TAILaRIGHT FISH TAILaUP FISH TAIL",
  "aDOWN FISH TAILaTRIPLE VERTICAL BAR DELIMITERaZ NOTATION SPOTcTYPE COLONaLEFT WHITE CURLY BRACKET",
  "aRIGHT WHITE CURLY BRACKETaLEFT WHITE PARENTHESISaRIGHT WHITE PARENTHESISaZ NOTATION LEFT IMAGE BRACKET",
  "cRIGHT IMAGE BRACKETcLEFT BINDING BRACKETcRIGHT BINDING BRACKETaLEFT SQUARE BRACKET WITH UNDERBAR",
  "aRIGHT SQUARE BRACKET WITH UNDERBARaLEFT SQUARE BRACKET WITH TICK IN TOP CORNER",
  "aRIGHT SQUARE BRACKET WITH TICK IN BOTTOM CORNERaLEFT SQUARE BRACKET WITH TICK IN BOTTOM CORNER",
  "aRIGHT SQUARE BRACKET WITH TICK IN TOP CORNERaLEFT ANGLE BRACKET WITH DOTaRIGHT ANGLE BRACKET WITH DOT",
  "aLEFT ARC LESS-THAN BRACKETaRIGHT ARC GREATER-THAN BRACKETaDOUBLE LEFT ARC GREATER-THAN BRACKET",
  "bRIGHT ARC LESS-THAN BRACKETaLEFT BLACK TORTOISE SHELL BRACKETaRIGHT BLACK TORTOISE SHELL BRACKETaDOTTED FENCE",
  "aVERTICAL ZIGZAG LINEaMEASURED ANGLE OPENING LEFTaRIGHT ANGLE VARIANT WITH SQUAREaMEASURED RIGHT ANGLE WITH DOT",
  "aANGLE WITH S INSIDEaACUTE ANGLEaSPHERICAL ANGLE OPENING LEFTdUPaTURNED ANGLEaREVERSED ANGLEaANGLE WITH UNDERBAR",
  "aREVERSED ANGLE WITH UNDERBARaOBLIQUE ANGLE OPENING UPdDOWN",
  "aMEASURED ANGLE WITH OPEN ARM ENDING IN ARROW POINTING UP AND RIGHTlLEFTjDOWN AND RIGHTlLEFTjRIGHT AND UP",
  "jLEFT AND UPjRIGHT AND DOWNjLEFT AND DOWNaREVERSED EMPTY SETaEMPTY SET WITH OVERBARdSMALL CIRCLE ABOVE",
  "dRIGHT ARROW ABOVEdLEFT ARROW ABOVEaCIRCLE WITH HORIZONTAL BARaCIRCLED VERTICAL BARbPARALLELbREVERSE SOLIDUS",
  "bPERPENDICULARaCIRCLE DIVIDED BY HORIZONTAL BAR AND TOP HALF DIVIDED BY VERTICAL BARbWITH SUPERIMPOSED X",
  "aCIRCLED ANTICLOCKWISE-ROTATED DIVISION SIGNaUP ARROW THROUGH CIRCLEaCIRCLED WHITE BULLETbBULLETbLESS-THAN",
  "bGREATER-THANaCIRCLE WITH SMALL CIRCLE TO THE RIGHTcTWO HORIZONTAL STROKES TO THE RIGHT",
  "aSQUARED RISING DIAGONAL SLASHbFALLING DIAGONAL SLASHbASTERISKbSMALL CIRCLEbSQUAREaTWO JOINED SQUARES",
  "aTRIANGLE WITH DOT ABOVEcUNDERBARaS IN TRIANGLEaTRIANGLE WITH SERIFS AT BOTTOM",
  "aRIGHT TRIANGLE ABOVE LEFT TRIANGLEaLEFT TRIANGLE BESIDE VERTICAL BARaVERTICAL BAR BESIDE RIGHT TRIANGLE",
  "aBOWTIE WITH LEFT HALF BLACKcRIGHT HALF BLACKaBLACK BOWTIEaTIMES WITH LEFT HALF BLACKcRIGHT HALF BLACK",
  "aWHITE HOURGLASSaBLACK HOURGLASSaLEFT WIGGLY FENCEaRIGHT WIGGLY FENCEaLEFT DOUBLE WIGGLY FENCE",
  "aRIGHT DOUBLE WIGGLY FENCEaINCOMPLETE INFINITYaTIE OVER INFINITYaINFINITY NEGATED WITH VERTICAL BAR",
  "aDOUBLE-ENDED MULTIMAPaSQUARE WITH CONTOURED OUTLINEaINCREASES ASaSHUFFLE PRODUCT",
  "aEQUALS SIGN AND SLANTED PARALLELfWITH TILDE ABOVEaIDENTICAL TO AND SLANTED PARALLELaGLEICH STARKaTHERMODYNAMIC",
  "aDOWN-POINTING TRIANGLE WITH LEFT HALF BLACKdRIGHT HALF BLACKaBLACK DIAMOND WITH DOWN ARROWbLOZENGE",
  "aWHITE CIRCLE WITH DOWN ARROWaBLACK CIRCLE WITH DOWN ARROWaERROR-BARRED WHITE SQUAREbBLACK SQUAREbWHITE DIAMOND",
  "bBLACK DIAMONDbWHITE CIRCLEbBLACK CIRCLEaRULE-DELAYEDaREVERSE SOLIDUS OPERATORaSOLIDUS WITH OVERBAR",
  "aREVERSE SOLIDUS WITH HORIZONTAL STROKEaBIG SOLIDUSbREVERSE SOLIDUSaDOUBLE PLUSaTRIPLE PLUS",
  "aLEFT-POINTING CURVED ANGLE BRACKETaRIGHT-POINTING CURVED ANGLE BRACKETaTINYaMINYaN-ARY CIRCLED DOT OPERATOR",
  "cPLUS OPERATORcTIMES OPERATORbUNION OPERATOR WITH DOTePLUSbSQUARE INTERSECTION OPERATORcUNION OPERATOR",
  "aTWO LOGICAL AND OPERATORcOR OPERATORaN-ARY TIMES OPERATORaMODULO TWO SUMaSUMMATION WITH INTEGRAL",
  "aQUADRUPLE INTEGRAL OPERATORaFINITE PART INTEGRALaINTEGRAL WITH DOUBLE STROKEbAVERAGE WITH SLASH",
  "aCIRCULATION FUNCTIONaANTICLOCKWISE INTEGRATIONaLINE INTEGRATION WITH RECTANGULAR PATH AROUND POLE",
  "dSEMICIRCULAR PATH AROUND POLEcNOT INCLUDING THE POLEaINTEGRAL AROUND A POINT OPERATOR",
  "aQUATERNION INTEGRAL OPERATORaINTEGRAL WITH LEFTWARDS ARROW WITH HOOKcTIMES SIGNcINTERSECTIONcUNIONcOVERBAR",
  "cUNDERBARaJOINaLARGE LEFT TRIANGLE OPERATORaZ NOTATION SCHEMA COMPOSITIONdPIPINGdPROJECTION",
  "aPLUS SIGN WITH SMALL CIRCLE ABOVEdCIRCUMFLEX ACCENT ABOVEdTILDE ABOVEdDOT BELOWdTILDE BELOWdSUBSCRIPT TWO",
  "dBLACK TRIANGLEaMINUS SIGN WITH COMMA ABOVEdDOT BELOWdFALLING DOTSdRISING DOTSaPLUS SIGN IN LEFT HALF CIRCLE",
  "dRIGHT HALF CIRCLEaVECTOR OR CROSS PRODUCTaMULTIPLICATION SIGN WITH DOT ABOVEdUNDERBAR",
  "aSEMIDIRECT PRODUCT WITH BOTTOM CLOSEDaSMASH PRODUCTaMULTIPLICATION SIGN IN LEFT HALF CIRCLEdRIGHT HALF CIRCLE",
  "aCIRCLED MULTIPLICATION SIGN WITH CIRCUMFLEX ACCENTaMULTIPLICATION SIGN IN DOUBLE CIRCLEaCIRCLED DIVISION SIGN",
  "aPLUS SIGN IN TRIANGLEaMINUS SIGN IN TRIANGLEaMULTIPLICATION SIGN IN TRIANGLEaINTERIOR PRODUCT",
  "aRIGHTHAND INTERIOR PRODUCTaZ NOTATION RELATIONAL COMPOSITIONaAMALGAMATION OR COPRODUCTaINTERSECTION WITH DOT",
  "aUNION WITH MINUS SIGNcOVERBARaINTERSECTION WITH OVERBARcLOGICAL ANDaUNION WITH LOGICAL ORbABOVE INTERSECTION",
  "aINTERSECTION ABOVE UNIONaUNION ABOVE BAR ABOVE INTERSECTIONaINTERSECTION ABOVE BAR ABOVE UNION",
  "aUNION BESIDE AND JOINED WITH UNIONaINTERSECTION BESIDE AND JOINED WITH INTERSECTIONaCLOSED UNION WITH SERIFS",
  "bINTERSECTION WITH SERIFSaDOUBLE SQUARE INTERSECTIONcUNIONaCLOSED UNION WITH SERIFS AND SMASH PRODUCT",
  "aLOGICAL AND WITH DOT ABOVEbOR WITH DOT ABOVEaDOUBLE LOGICAL ANDcORaTWO INTERSECTING LOGICAL ANDdOR",
  "aSLOPING LARGE ORcANDaLOGICAL OR OVERLAPPING LOGICAL ANDbAND WITH MIDDLE STEMbOR WITH MIDDLE STEM",
  "bAND WITH HORIZONTAL DASHbOR WITH HORIZONTAL DASHbAND WITH DOUBLE OVERBARdUNDERBARdDOUBLE UNDERBAR",
  "aSMALL VEE WITH UNDERBARaLOGICAL OR WITH DOUBLE OVERBAReUNDERBARaZ NOTATION DOMAIN ANTIRESTRICTION",
  "cRANGE ANTIRESTRICTIONaEQUALS SIGN WITH DOT BELOWaIDENTICAL WITH DOT ABOVE",
  "aTRIPLE HORIZONTAL BAR WITH DOUBLE VERTICAL STROKEeTRIPLE VERTICAL STROKEaTILDE OPERATOR WITH DOT ABOVE",
  "dRISING DOTSaSIMILAR MINUS SIMILARaCONGRUENT WITH DOT ABOVEaEQUALS WITH ASTERISK",
  "aALMOST EQUAL TO WITH CIRCUMFLEX ACCENTaAPPROXIMATELY EQUAL OR EQUAL TOaEQUALS SIGN ABOVE PLUS SIGN",
  "aPLUS SIGN ABOVE EQUALS SIGNaEQUALS SIGN ABOVE TILDE OPERATORaDOUBLE COLON EQUALaTWO CONSECUTIVE EQUALS SIGNS",
  "aTHREE CONSECUTIVE EQUALS SIGNSaEQUALS SIGN WITH TWO DOTS ABOVE AND TWO DOTS BELOW",
  "aEQUIVALENT WITH FOUR DOTS ABOVEaLESS-THAN WITH CIRCLE INSIDEaGREATER-THAN WITH CIRCLE INSIDE",
  "aLESS-THAN WITH QUESTION MARK ABOVEaGREATER-THAN WITH QUESTION MARK ABOVEaLESS-THAN OR SLANTED EQUAL TO",
  "aGREATER-THAN OR SLANTED EQUAL TOaLESS-THAN OR SLANTED EQUAL TO WITH DOT INSIDE",
  "aGREATER-THAN OR SLANTED EQUAL TO WITH DOT INSIDEaLESS-THAN OR SLANTED EQUAL TO WITH DOT ABOVE",
  "aGREATER-THAN OR SLANTED EQUAL TO WITH DOT ABOVEaLESS-THAN OR SLANTED EQUAL TO WITH DOT ABOVE RIGHT",
  "aGREATER-THAN OR SLANTED EQUAL TO WITH DOT ABOVE LEFTaLESS-THAN OR APPROXIMATEaGREATER-THAN OR APPROXIMATE",
  "aLESS-THAN AND SINGLE-LINE NOT EQUAL TOaGREATER-THAN AND SINGLE-LINE NOT EQUAL TOaLESS-THAN AND NOT APPROXIMATE",
  "aGREATER-THAN AND NOT APPROXIMATEaLESS-THAN ABOVE DOUBLE-LINE EQUAL ABOVE GREATER-THAN",
  "aGREATER-THAN ABOVE DOUBLE-LINE EQUAL ABOVE LESS-THANaLESS-THAN ABOVE SIMILAR OR EQUAL",
  "aGREATER-THAN ABOVE SIMILAR OR EQUALaLESS-THAN ABOVE SIMILAR ABOVE GREATER-THAN",
  "aGREATER-THAN ABOVE SIMILAR ABOVE LESS-THANaLESS-THAN ABOVE GREATER-THAN ABOVE DOUBLE-LINE EQUAL",
  "aGREATER-THAN ABOVE LESS-THAN ABOVE DOUBLE-LINE EQUAL",
  "aLESS-THAN ABOVE SLANTED EQUAL ABOVE GREATER-THAN ABOVE SLANTED EQUAL",
  "aGREATER-THAN ABOVE SLANTED EQUAL ABOVE LESS-THAN ABOVE SLANTED EQUALaSLANTED EQUAL TO OR LESS-THANeGREATER-THAN",
  "eLESS-THAN WITH DOT INSIDEeGREATER-THAN WITH DOT INSIDEaDOUBLE-LINE EQUAL TO OR LESS-THANeGREATER-THAN",
  "bSLANTED EQUAL TO OR LESS-THANfGREATER-THANaSIMILAR OR LESS-THANcGREATER-THANbABOVE LESS-THAN ABOVE EQUALS SIGN",
  "cGREATER-THAN ABOVE EQUALS SIGNaDOUBLE NESTED LESS-THANcGREATER-THANcLESS-THAN WITH UNDERBAR",
  "aGREATER-THAN OVERLAPPING LESS-THANbBESIDE LESS-THANaLESS-THAN CLOSED BY CURVEaGREATER-THAN CLOSED BY CURVE",
  "aLESS-THAN CLOSED BY CURVE ABOVE SLANTED EQUALaGREATER-THAN CLOSED BY CURVE ABOVE SLANTED EQUALaSMALLER THAN",
  "aLARGER THANaSMALLER THAN OR EQUAL TOaLARGER THAN OR EQUAL TOaEQUALS SIGN WITH BUMPY ABOVE",
  "aPRECEDES ABOVE SINGLE-LINE EQUALS SIGNaSUCCEEDS ABOVE SINGLE-LINE EQUALS SIGN",
  "aPRECEDES ABOVE SINGLE-LINE NOT EQUAL TOaSUCCEEDS ABOVE SINGLE-LINE NOT EQUAL TOaPRECEDES ABOVE EQUALS SIGN",
  "aSUCCEEDS ABOVE EQUALS SIGNaPRECEDES ABOVE NOT EQUAL TOaSUCCEEDS ABOVE NOT EQUAL TO",
  "aPRECEDES ABOVE ALMOST EQUAL TOaSUCCEEDS ABOVE ALMOST EQUAL TOaPRECEDES ABOVE NOT ALMOST EQUAL TO",
  "aSUCCEEDS ABOVE NOT ALMOST EQUAL TOaDOUBLE PRECEDESbSUCCEEDSaSUBSET WITH DOTaSUPERSET WITH DOT",
  "aSUBSET WITH PLUS SIGN BELOWaSUPERSET WITH PLUS SIGN BELOWaSUBSET WITH MULTIPLICATION SIGN BELOW",
  "aSUPERSET WITH MULTIPLICATION SIGN BELOWaSUBSET OF OR EQUAL TO WITH DOT ABOVE",
  "aSUPERSET OF OR EQUAL TO WITH DOT ABOVEaSUBSET OF ABOVE EQUALS SIGNaSUPERSET OF ABOVE EQUALS SIGN",
  "aSUBSET OF ABOVE TILDE OPERATORaSUPERSET OF ABOVE TILDE OPERATORaSUBSET OF ABOVE ALMOST EQUAL TO",
  "aSUPERSET OF ABOVE ALMOST EQUAL TOaSUBSET OF ABOVE NOT EQUAL TOaSUPERSET OF ABOVE NOT EQUAL TO",
  "aSQUARE LEFT OPEN BOX OPERATORbRIGHT OPEN BOX OPERATORaCLOSED SUBSETbSUPERSETbSUBSET OR EQUAL TO",
  "bSUPERSET OR EQUAL TOaSUBSET ABOVE SUPERSETaSUPERSET ABOVE SUBSETaSUBSET ABOVE SUBSETaSUPERSET ABOVE SUPERSET",
  "bBESIDE SUBSETcAND JOINED BY DASH WITH SUBSETaELEMENT OF OPENING DOWNWARDSaPITCHFORK WITH TEE TOP",
  "aTRANSVERSAL INTERSECTIONaFORKINGaNONFORKINGaSHORT LEFT TACKbDOWN TACKbUP TACKaPERPENDICULAR WITH S",
  "aVERTICAL BAR TRIPLE RIGHT TURNSTILEaDOUBLE VERTICAL BAR LEFT TURNSTILEaVERTICAL BAR DOUBLE LEFT TURNSTILE",
  "aDOUBLE VERTICAL BAR DOUBLE LEFT TURNSTILEaLONG DASH FROM LEFT MEMBER OF DOUBLE VERTICAL",
  "aSHORT DOWN TACK WITH OVERBARbUP TACK WITH UNDERBARdABOVE SHORT DOWN TACKaDOUBLE DOWN TACKbUP TACK",
  "bSTROKE NOT SIGNaREVERSED DOUBLE STROKE NOT SIGNaDOES NOT DIVIDE WITH REVERSED NEGATION SLASH",
  "aVERTICAL LINE WITH CIRCLE ABOVEeBELOWaDOWN TACK WITH CIRCLE BELOWaPARALLEL WITH HORIZONTAL STROKE",
  "cTILDE OPERATORaTRIPLE VERTICAL BAR BINARY RELATIONdWITH HORIZONTAL STROKEbCOLON OPERATORbNESTED LESS-THAN",
  "cGREATER-THANaDOUBLE-LINE SLANTED LESS-THAN OR EQUAL TOcGREATER-THAN OR EQUAL TOaTRIPLE SOLIDUS BINARY RELATION",
  "aLARGE TRIPLE VERTICAL BAR OPERATORaDOUBLE SOLIDUS OPERATORaWHITE VERTICAL BARaN-ARY WHITE VERTICAL BAR",
  "aNORTH EAST WHITE ARROWbWEST WHITE ARROWaSOUTH EAST WHITE ARROWbWEST WHITE ARROWaLEFT RIGHT WHITE ARROW",
  "aLEFTWARDS BLACK ARROWaUPWARDS BLACK ARROWaDOWNWARDS BLACK ARROWaNORTH EAST BLACK ARROWbWEST BLACK ARROW",
  "aSOUTH EAST BLACK ARROWbWEST BLACK ARROWaLEFT RIGHT BLACK ARROWaUP DOWN BLACK ARROW",
  "aRIGHTWARDS ARROW WITH TIP DOWNWARDSeUPWARDSaLEFTWARDS ARROW WITH TIP DOWNWARDSeUPWARDS",
  "aSQUARE WITH TOP HALF BLACKcBOTTOM HALF BLACKcUPPER RIGHT DIAGONAL HALF BLACKcLOWER LEFT DIAGONAL HALF BLACK",
  "aDIAMOND WITH LEFT HALF BLACKcRIGHT HALF BLACKcTOP HALF BLACKcBOTTOM HALF BLACKaDOTTED SQUAREaBLACK LARGE SQUARE",
  "aWHITE LARGE SQUAREaBLACK VERY SMALL SQUAREaWHITE VERY SMALL SQUAREaBLACK PENTAGONaWHITE PENTAGONbHEXAGON",
  "aBLACK HEXAGONaHORIZONTAL BLACK HEXAGONaBLACK LARGE CIRCLEbMEDIUM DIAMONDaWHITE MEDIUM DIAMOND",
  "aBLACK MEDIUM LOZENGEaWHITE MEDIUM LOZENGEaBLACK SMALL DIAMONDcLOZENGEaWHITE SMALL LOZENGE",
  "aBLACK HORIZONTAL ELLIPSEaWHITE HORIZONTAL ELLIPSEaBLACK VERTICAL ELLIPSEaWHITE VERTICAL ELLIPSE",
  "aLEFT ARROW WITH SMALL CIRCLEaTHREE LEFTWARDS ARROWSaLEFT ARROW WITH CIRCLED PLUSaLONG LEFTWARDS SQUIGGLE ARROW",
  "aLEFTWARDS TWO-HEADED ARROW WITH VERTICAL STROKEeDOUBLE VERTICAL STROKEdFROM BARcTRIPLE DASH ARROW",
  "bARROW WITH DOTTED STEMdTAIL WITH VERTICAL STROKEfDOUBLE VERTICAL STROKEbTWO-HEADED ARROW WITH TAIL",
  "fWITH VERTICAL STROKEgDOUBLE VERTICAL STROKEbARROW THROUGH XaWAVE ARROW POINTING DIRECTLY LEFT",
  "aEQUALS SIGN ABOVE LEFTWARDS ARROWaREVERSE TILDE OPERATOR ABOVE LEFTWARDS ARROW",
  "aLEFTWARDS ARROW ABOVE REVERSE ALMOST EQUAL TOaRIGHTWARDS ARROW THROUGH GREATER-THANdSUPERSET",
  "aLEFTWARDS QUADRUPLE ARROWaRIGHTWARDS QUADRUPLE ARROWaREVERSE TILDE OPERATOR ABOVE RIGHTWARDS ARROW",
  "aRIGHTWARDS ARROW ABOVE REVERSE ALMOST EQUAL TOaTILDE OPERATOR ABOVE LEFTWARDS ARROW",
  "aLEFTWARDS ARROW ABOVE ALMOST EQUAL TOdREVERSE TILDE OPERATORaRIGHTWARDS ARROW ABOVE REVERSE TILDE OPERATOR",
  "aDOWNWARDS TRIANGLE-HEADED ZIGZAG ARROWaSHORT SLANTED NORTH ARROWbBACKSLANTED SOUTH ARROWaWHITE MEDIUM STAR",
  "aBLACK SMALL STARaWHITE SMALL STARaBLACK RIGHT-POINTING PENTAGONaWHITE RIGHT-POINTING PENTAGON",
  "aHEAVY LARGE CIRCLEbOVAL WITH OVAL INSIDEbCIRCLE WITH CIRCLE INSIDEbCIRCLEbCIRCLED SALTIRE",
  "aSLANTED NORTH ARROW WITH HOOKED HEADaBACKSLANTED SOUTH ARROW WITH HOOKED TAIL",
  "aSLANTED NORTH ARROW WITH HORIZONTAL TAILaBACKSLANTED SOUTH ARROW WITH HORIZONTAL TAIL",
  "aBENT ARROW POINTING DOWNWARDS THEN NORTH EASTaSHORT BENT ARROW POINTING DOWNWARDS THEN NORTH EAST",
  "aLEFTWARDS TRIANGLE-HEADED ARROWaUPWARDS TRIANGLE-HEADED ARROWaRIGHTWARDS TRIANGLE-HEADED ARROW",
  "aDOWNWARDS TRIANGLE-HEADED ARROWaLEFT RIGHT TRIANGLE-HEADED ARROWaUP DOWN TRIANGLE-HEADED ARROW",
  "aNORTH WEST TRIANGLE-HEADED ARROWbEAST TRIANGLE-HEADED ARROWaSOUTH EAST TRIANGLE-HEADED ARROW",
  "bWEST TRIANGLE-HEADED ARROWaLEFTWARDS TRIANGLE-HEADED DASHED ARROWaUPWARDS TRIANGLE-HEADED DASHED ARROW",
  "aRIGHTWARDS TRIANGLE-HEADED DASHED ARROWaDOWNWARDS TRIANGLE-HEADED DASHED ARROW",
  "aCLOCKWISE TRIANGLE-HEADED OPEN CIRCLE ARROWaANTICLOCKWISE TRIANGLE-HEADED OPEN CIRCLE ARROW",
  "aLEFTWARDS TRIANGLE-HEADED ARROW TO BARaUPWARDS TRIANGLE-HEADED ARROW TO BAR",
  "aRIGHTWARDS TRIANGLE-HEADED ARROW TO BARaDOWNWARDS TRIANGLE-HEADED ARROW TO BAR",
  "2B76 aNORTH WEST TRIANGLE-HEADED ARROW TO BARbEAST TRIANGLE-HEADED ARROW TO BAR",
  "aSOUTH EAST TRIANGLE-HEADED ARROW TO BARbWEST TRIANGLE-HEADED ARROW TO BAR",
  "aLEFTWARDS TRIANGLE-HEADED ARROW WITH DOUBLE HORIZONTAL STROKE",
  "aUPWARDS TRIANGLE-HEADED ARROW WITH DOUBLE HORIZONTAL STROKE",
  "aRIGHTWARDS TRIANGLE-HEADED ARROW WITH DOUBLE HORIZONTAL STROKE",
  "aDOWNWARDS TRIANGLE-HEADED ARROW WITH DOUBLE HORIZONTAL STROKEaHORIZONTAL TAB KEYaVERTICAL TAB KEY",
  "aLEFTWARDS TRIANGLE-HEADED ARROW OVER RIGHTWARDS TRIANGLE-HEADED ARROW",
  "aUPWARDS TRIANGLE-HEADED ARROW LEFTWARDS OF DOWNWARDS TRIANGLE-HEADED ARROW",
  "aRIGHTWARDS TRIANGLE-HEADED ARROW OVER LEFTWARDS TRIANGLE-HEADED ARROW",
  "aDOWNWARDS TRIANGLE-HEADED ARROW LEFTWARDS OF UPWARDS TRIANGLE-HEADED ARROW",
  "aLEFTWARDS TRIANGLE-HEADED PAIRED ARROWSaUPWARDS TRIANGLE-HEADED PAIRED ARROWS",
  "aRIGHTWARDS TRIANGLE-HEADED PAIRED ARROWSaDOWNWARDS TRIANGLE-HEADED PAIRED ARROWS",
  "aLEFTWARDS BLACK CIRCLED WHITE ARROWaUPWARDS BLACK CIRCLED WHITE ARROWaRIGHTWARDS BLACK CIRCLED WHITE ARROW",
  "aDOWNWARDS BLACK CIRCLED WHITE ARROWaANTICLOCKWISE TRIANGLE-HEADED RIGHT U-SHAPED ARROWcBOTTOM U-SHAPED ARROW",
  "cLEFT U-SHAPED ARROWcTOP U-SHAPED ARROWaRETURN LEFTbRIGHTaNEWLINE LEFTbRIGHT",
  "aFOUR CORNER ARROWS CIRCLING ANTICLOCKWISEaRIGHTWARDS BLACK ARROW",
  "2B97 aSYMBOL FOR TYPE A ELECTRONICSaTHREE-D TOP-LIGHTED LEFTWARDS EQUILATERAL ARROWHEAD",
  "bRIGHT-LIGHTED UPWARDS EQUILATERAL ARROWHEADbTOP-LIGHTED RIGHTWARDS EQUILATERAL ARROWHEAD",
  "bLEFT-LIGHTED DOWNWARDS EQUILATERAL ARROWHEADaBLACK LEFTWARDS EQUILATERAL ARROWHEAD",
  "bUPWARDS EQUILATERAL ARROWHEADbRIGHTWARDS EQUILATERAL ARROWHEADbDOWNWARDS EQUILATERAL ARROWHEAD",
  "aDOWNWARDS TRIANGLE-HEADED ARROW WITH LONG TIP LEFTWARDSgRIGHTWARDS",
  "aUPWARDS TRIANGLE-HEADED ARROW WITH LONG TIP LEFTWARDSgRIGHTWARDS",
  "aLEFTWARDS TRIANGLE-HEADED ARROW WITH LONG TIP UPWARDSaRIGHTWARDS TRIANGLE-HEADED ARROW WITH LONG TIP UPWARDS",
  "aLEFTWARDS TRIANGLE-HEADED ARROW WITH LONG TIP DOWNWARDS",
  "aRIGHTWARDS TRIANGLE-HEADED ARROW WITH LONG TIP DOWNWARDSaBLACK CURVED DOWNWARDS AND LEFTWARDS ARROW",
  "eRIGHTWARDS ARROWcUPWARDS AND LEFTWARDS ARROWeRIGHTWARDS ARROWcLEFTWARDS AND UPWARDS ARROW",
  "cRIGHTWARDS AND UPWARDS ARROWcLEFTWARDS AND DOWNWARDS ARROWcRIGHTWARDS AND DOWNWARDS ARROW",
  "aRIBBON ARROW DOWN LEFTdRIGHTcUP LEFTdRIGHTcLEFT UPcRIGHT UPcLEFT DOWNcRIGHT DOWN",
  "aUPWARDS WHITE ARROW FROM BAR WITH HORIZONTAL BARaUP ARROWHEAD IN A RECTANGLE BOXaOVERLAPPING WHITE SQUARES",
  "cAND BLACK SQUARESbBLACK SQUARESaBALLOT BOX WITH LIGHT XaCIRCLED XbBOLD XaBLACK SQUARE CENTREDbDIAMOND CENTRED",
  "aTURNED BLACK PENTAGONaHORIZONTAL BLACK OCTAGONaBLACK OCTAGONbMEDIUM UP-POINTING TRIANGLE CENTRED",
  "cDOWN-POINTING TRIANGLE CENTREDcLEFT-POINTING TRIANGLE CENTREDcRIGHT-POINTING TRIANGLE CENTREDaNEPTUNE FORM TWO",
  "aTOP HALF BLACK CIRCLEaBOTTOM HALF BLACK CIRCLEaLIGHT FOUR POINTED BLACK CUSP",
  "aROTATED LIGHT FOUR POINTED BLACK CUSPaWHITE FOUR POINTED CUSPaROTATED WHITE FOUR POINTED CUSP",
  "aSQUARE POSITION INDICATORaUNCERTAINTY SIGNaGROUP MARKaPLUTO FORM TWOcTHREEcFOURcFIVEaTRANSPLUTOaPROSERPINA",
  "aASTRAEAaHYGIEAaPHOLUSaNESSUSaWHITE MOON SELENAaBLACK DIAMOND ON CROSSaTRUE LIGHT MOON ARTAaCUPIDOaHADESaZEUS",
  "aKRONOSaAPOLLONaADMETOSaVULCANUSaPOSEIDONaLEFT HALF BLACK STARaRIGHT HALF BLACK STARaSTAR WITH LEFT HALF BLACK",
  "cRIGHT HALF BLACKaLEFTWARDS TWO-HEADED ARROW WITH TRIANGLE ARROWHEADS",
  "aUPWARDS TWO-HEADED ARROW WITH TRIANGLE ARROWHEADSaRIGHTWARDS TWO-HEADED ARROW WITH TRIANGLE ARROWHEADS",
  "aDOWNWARDS TWO-HEADED ARROW WITH TRIANGLE ARROWHEADSaERIS FORM ONEcTWOaSEDNA",
  "aRUSSIAN ASTROLOGICAL SYMBOL VIGINTILEdNOVILEdQUINTILEdBINOVILEdSENTAGONdTREDECILE",
  "aEQUALS SIGN WITH INFINITY BELOWaUNITED SYMBOLaSEPARATED SYMBOLaDOUBLED SYMBOLaPASSED SYMBOL",
  "aREVERSED RIGHT ANGLEaHELLSCHREIBER PAUSE SYMBOLaGLAGOLITIC CAPITAL LETTER AZUdBUKYdVEDEdGLAGOLIdDOBROdYESTU",
  "dZHIVETEdDZELOdZEMLJAdIZHEdINITIAL IZHEdIdDJERVIdKAKOdLJUDIJEdMYSLITEdNASHIdONUdPOKOJIdRITSIdSLOVOdTVRIDOdUKU",
  "dFRITUdHERUdOTUdPEdSHTAdTSIdCHRIVIdSHAdYERUdYERIdYATIdSPIDERY HAdYUdSMALL YUSfWITH TAILdYOdIOTATED SMALL YUS",
  "dBIG YUSdIOTATED BIG YUSdFITAdIZHITSAdSHTAPICdTROKUTASTI AdLATINATE MYSLITEdCAUDATE CHRIVIbSMALL LETTER AZUdBUKY",
  "dVEDEdGLAGOLIdDOBROdYESTUdZHIVETEdDZELOdZEMLJAdIZHEdINITIAL IZHEdIdDJERVIdKAKOdLJUDIJEdMYSLITEdNASHIdONUdPOKOJI",
  "dRITSIdSLOVOdTVRIDOdUKUdFRITUdHERUdOTUdPEdSHTAdTSIdCHRIVIdSHAdYERUdYERIdYATIdSPIDERY HAdYUdSMALL YUSfWITH TAIL",
  "dYOdIOTATED SMALL YUSdBIG YUSdIOTATED BIG YUSdFITAdIZHITSAdSHTAPICdTROKUTASTI AdLATINATE MYSLITEdCAUDATE CHRIVI",
  "aLATIN CAPITAL LETTER L WITH DOUBLE BAR~bCAPITAL LETTER L WITH MIDDLE TILDEdP WITH STROKEdR WITH TAIL",
  "bSMALL LETTER A WITH STROKEdT WITH DIAGONAL STROKEbCAPITAL LETTER H WITH DESCENDER~",
  "bCAPITAL LETTER K WITH DESCENDER~bCAPITAL LETTER Z WITH DESCENDER~bCAPITAL LETTER ALPHAdM WITH HOOKdTURNED A",
  "eALPHAbSMALL LETTER V WITH RIGHT HOOKbCAPITAL LETTER W WITH HOOK~dV WITH CURLbCAPITAL LETTER HALF H~",
  "dTAILLESS PHIdE WITH NOTCHdTURNED R WITH TAILdO WITH LOW RING INSIDEbLETTER SMALL CAPITAL TURNED E",
  "bSUBSCRIPT SMALL LETTER JaMODIFIER LETTER CAPITAL VaLATIN CAPITAL LETTER S WITH SWASH TAILdZ WITH SWASH TAIL",
  "aCOPTIC CAPITAL LETTER ALFA~bCAPITAL LETTER VIDA~bCAPITAL LETTER GAMMA~bCAPITAL LETTER DALDA~bCAPITAL LETTER EIE",
  "~bCAPITAL LETTER SOU~bCAPITAL LETTER ZATA~bCAPITAL LETTER HATE~bCAPITAL LETTER THETHE~bCAPITAL LETTER IAUDA~",
  "bCAPITAL LETTER KAPA~bCAPITAL LETTER LAULA~bCAPITAL LETTER MI~bCAPITAL LETTER NI~bCAPITAL LETTER KSI~",
  "bCAPITAL LETTER O~bCAPITAL LETTER PI~bCAPITAL LETTER RO~bCAPITAL LETTER SIMA~bCAPITAL LETTER TAU~",
  "bCAPITAL LETTER UA~bCAPITAL LETTER FI~bCAPITAL LETTER KHI~bCAPITAL LETTER PSI~bCAPITAL LETTER OOU~",
  "bCAPITAL LETTER DIALECT-P ALEF~bCAPITAL LETTER OLD COPTIC AIN~bCAPITAL LETTER CRYPTOGRAMMIC EIE~",
  "bCAPITAL LETTER DIALECT-P KAPA~bCAPITAL LETTER DIALECT-P NI~bCAPITAL LETTER CRYPTOGRAMMIC NI~",
  "bCAPITAL LETTER OLD COPTIC OOU~bCAPITAL LETTER SAMPI~bCAPITAL LETTER CROSSED SHEI~",
  "bCAPITAL LETTER OLD COPTIC SHEI~bCAPITAL LETTER OLD COPTIC ESH~bCAPITAL LETTER AKHMIMIC KHEI~",
  "bCAPITAL LETTER DIALECT-P HORI~bCAPITAL LETTER OLD COPTIC HORI~bCAPITAL LETTER OLD COPTIC HA~",
  "bCAPITAL LETTER L-SHAPED HA~bCAPITAL LETTER OLD COPTIC HEI~bCAPITAL LETTER OLD COPTIC HAT~",
  "bCAPITAL LETTER OLD COPTIC GANGIA~bCAPITAL LETTER OLD COPTIC DJA~bCAPITAL LETTER OLD COPTIC SHIMA~",
  "bCAPITAL LETTER OLD NUBIAN SHIMA~bCAPITAL LETTER OLD NUBIAN NGI~bCAPITAL LETTER OLD NUBIAN NYI~",
  "bCAPITAL LETTER OLD NUBIAN WAU~bSYMBOL KAIcMI ROcPI ROcSTAUROScTAU ROcKHI ROcSHIMA SIMA",
  "bCAPITAL LETTER CRYPTOGRAMMIC SHEI~bCAPITAL LETTER CRYPTOGRAMMIC GANGIA~bCOMBINING NI ABOVEcSPIRITUS ASPERdLENIS",
  "bCAPITAL LETTER BOHAIRIC KHEI~",
  "2CF9 bOLD NUBIAN FULL STOPdDIRECT QUESTION MARKdINDIRECT QUESTION MARKdVERSE DIVIDERbFRACTION ONE HALFbFULL STOP",
  "bMORPHOLOGICAL DIVIDERaGEORGIAN SMALL LETTER ANdBANdGANdDONdENdVINdZENdTANdINdKANdLASdMANdNARdONdPARdZHARdRAE",
  "dSANdTARdUNdPHARdKHARdGHANdQARdSHINdCHINdCANdJILdCILdCHARdXANdJHANdHAEdHEdHIEdWEdHARdHOE",
  "2D27 dYN",
  "2D2D dAEN",
  "2D30 aTIFINAGH LETTER YAcYABcYABHcYAGcYAGHHcBERBER ACADEMY YAJcYAJcYADcYADHcYADDcYADDHcYEYcYAFcYAKcTUAREG YAK",
  "cYAKHHcYAHcBERBER ACADEMY YAHcTUAREG YAHcYAHHcYAAcYAKHcTUAREG YAKHcYAQcTUAREG YAQcYIcYAZHcAHAGGAR YAZH",
  "cTUAREG YAZHcYALcYAMcYANcTUAREG YAGNdYANGcYAPcYUcYARcYARRcYAGHcTUAREG YAGHcAYER YAGHcYAScYASScYASHcYATcYATHcYACH",
  "cYATTcYAVcYAWcYAYcYAZcTAWELLEMET YAZcYAZZcYEcYO",
  "2D6F bMODIFIER LETTER LABIALIZATION MARKbSEPARATOR MARK",
  "2D7F bCONSONANT JOINERaETHIOPIC SYLLABLE LOAcMOAcROAcSOAcSHOAcBOAcTOAcCOAcNOAcNYOAcGLOTTAL OAcZOAcDOAcDDOAcJOA",
  "cTHOAcCHOAcPHOAcPOAcGGWAcGGWIcGGWEEcGGWE",
  "2DA0 cSSAcSSUcSSIcSSAAcSSEEcSSEcSSO",
  "2DA8 cCCAcCCUcCCIcCCAAcCCEEcCCEcCCO",
  "2DB0 cZZAcZZUcZZIcZZAAcZZEEcZZEcZZO",
  "2DB8 cCCHAcCCHUcCCHIcCCHAAcCCHEEcCCHEcCCHO",
  "2DC0 cQYAcQYUcQYIcQYAAcQYEEcQYEcQYO",
  "2DC8 cKYAcKYUcKYIcKYAAcKYEEcKYEcKYO",
  "2DD0 cXYAcXYUcXYIcXYAAcXYEEcXYEcXYO",
  "2DD8 cGYAcGYUcGYIcGYAAcGYEEcGYEcGYO",
  "2DE0 aCOMBINING CYRILLIC LETTER BEdVEdGHEdDEdZHEdZEdKAdELdEMdENdOdPEdERdESdTEdHAdTSEdCHEdSHAdSHCHAdFITAdES-TEdA",
  "dIEdDJERVdMONOGRAPH UKdYATdYUdIOTIFIED AdLITTLE YUSdBIG YUSdIOTIFIED BIG YUSaRIGHT ANGLE SUBSTITUTION MARKER",
  "cDOTTED SUBSTITUTION MARKERaLEFT SUBSTITUTION BRACKETaRIGHT SUBSTITUTION BRACKET",
  "aLEFT DOTTED SUBSTITUTION BRACKETaRIGHT DOTTED SUBSTITUTION BRACKETaRAISED INTERPOLATION MARKER",
  "bDOTTED INTERPOLATION MARKERaDOTTED TRANSPOSITION MARKERaLEFT TRANSPOSITION BRACKETaRIGHT TRANSPOSITION BRACKET",
  "aRAISED SQUAREaLEFT RAISED OMISSION BRACKETaRIGHT RAISED OMISSION BRACKETaEDITORIAL CORONISaPARAGRAPHOS",
  "aFORKED PARAGRAPHOSaREVERSED FORKED PARAGRAPHOSaHYPODIASTOLEaDOTTED OBELOSaDOWNWARDS ANCORAaUPWARDS ANCORA",
  "aDOTTED RIGHT-POINTING ANGLEaDOUBLE OBLIQUE HYPHENaINVERTED INTERROBANGaPALM BRANCHaHYPHEN WITH DIAERESIS",
  "aTILDE WITH RING ABOVEaLEFT LOW PARAPHRASE BRACKETaRIGHT LOW PARAPHRASE BRACKETaTILDE WITH DOT ABOVEdBELOW",
  "aLEFT VERTICAL BAR WITH QUILLaRIGHT VERTICAL BAR WITH QUILLaTOP LEFT HALF BRACKETbRIGHT HALF BRACKET",
  "aBOTTOM LEFT HALF BRACKETbRIGHT HALF BRACKETaLEFT SIDEWAYS U BRACKETaRIGHT SIDEWAYS U BRACKET",
  "aLEFT DOUBLE PARENTHESISaRIGHT DOUBLE PARENTHESISaTWO DOTS OVER ONE DOT PUNCTUATION",
  "aONE DOT OVER TWO DOTS PUNCTUATIONaSQUARED FOUR DOT PUNCTUATIONaFIVE DOT MARKaREVERSED QUESTION MARK",
  "aVERTICAL TILDEaRING POINTaWORD SEPARATOR MIDDLE DOTaTURNED COMMAaRAISED DOTbCOMMAaTURNED SEMICOLON",
  "aDAGGER WITH LEFT GUARDcRIGHT GUARDaTURNED DAGGERaTOP HALF SECTION SIGNaTWO-EM DASHaTHREE-EM DASH",
  "aSTENOGRAPHIC FULL STOPaVERTICAL SIX DOTSaWIGGLY VERTICAL LINEaCAPITULUMaDOUBLE HYPHENaREVERSED COMMA",
  "aDOUBLE LOW-REVERSED-9 QUOTATION MARKaDASH WITH LEFT UPTURNaDOUBLE SUSPENSION MARKaINVERTED LOW KAVYKA",
  "dWITH KAVYKA ABOVEaLOW KAVYKAcWITH DOTaDOUBLE STACKED COMMAaDOTTED SOLIDUSaTRIPLE DAGGERaMEDIEVAL COMMA",
  "aPARAGRAPHUS MARKaPUNCTUS ELEVATUS MARKaCORNISH VERSE DIVIDERaCROSS PATTY WITH RIGHT CROSSBARdLEFT CROSSBAR",
  "aTIRONIAN SIGN CAPITAL ETaMEDIEVAL EXCLAMATION MARKbQUESTION MARKaLEFT SQUARE BRACKET WITH STROKE",
  "aRIGHT SQUARE BRACKET WITH STROKEaLEFT SQUARE BRACKET WITH DOUBLE STROKEaRIGHT SQUARE BRACKET WITH DOUBLE STROKE",
  "aTOP HALF LEFT PARENTHESIScRIGHT PARENTHESISaBOTTOM HALF LEFT PARENTHESIScRIGHT PARENTHESISaOBLIQUE HYPHEN",
  "2E80 aCJK RADICAL REPEATcCLIFFcSECOND ONEdTWOdTHREEcPERSONcBOXcTABLEcKNIFE ONEdTWOcDIVINATIONcSEALcSMALL ONEdTWO",
  "cLAME ONEdTWOdTHREEdFOURcSNAKEcTHREADcSNOUT ONEdTWOcHEART ONEdTWOcHANDcRAP",
  "2E9B cCHOKEcSUNcMOONcDEATHcMOTHERcCIVILIANcWATER ONEdTWOcFIREcPAW ONEdTWOcSIMPLIFIED HALF TREE TRUNKcCOWcDOG",
  "cJADEcBOLT OF CLOTHcEYEcSPIRIT ONEdTWOcBAMBOOcSILKcC-SIMPLIFIED SILKcNET ONEdTWOdTHREEdFOURcMESHcSHEEPcRAMcEWE",
  "cOLDcBRUSH ONEdTWOcMEATcMORTARcGRASS ONEdTWOdTHREEcTIGERcCLOTHEScWEST ONEdTWOcC-SIMPLIFIED SEEcSIMPLIFIED HORN",
  "cHORNcC-SIMPLIFIED SPEECHdSHELLcFOOTcC-SIMPLIFIED CARTcSIMPLIFIED WALKcWALK ONEdTWOcCITYcC-SIMPLIFIED GOLD",
  "cLONG ONEdTWOcC-SIMPLIFIED LONGdGATEcMOUND ONEdTWOcRAINcBLUEcC-SIMPLIFIED TANNED LEATHERdLEAFdWINDdFLYcEAT ONE",
  "dTWOdTHREEcC-SIMPLIFIED EATcHEADcC-SIMPLIFIED HORSEcBONEcGHOSTcC-SIMPLIFIED FISHdBIRDdSALTcSIMPLIFIED WHEAT",
  "dYELLOWcC-SIMPLIFIED FROGcJ-SIMPLIFIED EVENcC-SIMPLIFIED EVENcJ-SIMPLIFIED TOOTHcC-SIMPLIFIED TOOTH",
  "cJ-SIMPLIFIED DRAGONcC-SIMPLIFIED DRAGONcTURTLEcJ-SIMPLIFIED TURTLEcC-SIMPLIFIED TURTLE",
  "2F00 aKANGXI RADICAL ONEcLINEcDOTcSLASHcSECONDcHOOKcTWOcLIDcMANcLEGScENTERcEIGHTcDOWN BOXcCOVERcICEcTABLE",
  "cOPEN BOXcKNIFEcPOWERcWRAPcSPOONcRIGHT OPEN BOXcHIDING ENCLOSUREcTENcDIVINATIONcSEALcCLIFFcPRIVATEcAGAINcMOUTH",
  "cENCLOSUREcEARTHcSCHOLARcGOdSLOWLYcEVENINGcBIGcWOMANcCHILDcROOFcINCHcSMALLcLAMEcCORPSEcSPROUTcMOUNTAINcRIVER",
  "cWORKcONESELFcTURBANcDRYcSHORT THREADcDOTTED CLIFFcLONG STRIDEcTWO HANDScSHOOTcBOWcSNOUTcBRISTLEcSTEPcHEART",
  "cHALBERDcDOORcHANDcBRANCHcRAPcSCRIPTcDIPPERcAXEcSQUAREcNOTcSUNcSAYcMOONcTREEcLACKcSTOPcDEATHcWEAPONcDO NOT",
  "cCOMPAREcFURcCLANcSTEAMcWATERcFIREcCLAWcFATHERcDOUBLE XcHALF TREE TRUNKcSLICEcFANGcCOWcDOGcPROFOUNDcJADEcMELON",
  "cTILEcSWEETcLIFEcUSEcFIELDcBOLT OF CLOTHcSICKNESScDOTTED TENTcWHITEcSKINcDISHcEYEcSPEARcARROWcSTONEcSPIRITcTRACK",
  "cGRAINcCAVEcSTANDcBAMBOOcRICEcSILKcJARcNETcSHEEPcFEATHERcOLDcANDcPLOWcEARcBRUSHcMEATcMINISTERcSELFcARRIVEcMORTAR",
  "cTONGUEcOPPOSEcBOATcSTOPPINGcCOLORcGRASScTIGERcINSECTcBLOODcWALK ENCLOSUREcCLOTHEScWESTcSEEcHORNcSPEECHcVALLEY",
  "cBEANcPIGcBADGERcSHELLcREDcRUNcFOOTcBODYcCARTcBITTERcMORNINGcWALKcCITYcWINEcDISTINGUISHcVILLAGEcGOLDcLONGcGATE",
  "cMOUNDcSLAVEcSHORT TAILED BIRDcRAINcBLUEcWRONGcFACEcLEATHERcTANNED LEATHERcLEEKcSOUNDcLEAFcWINDcFLYcEATcHEAD",
  "cFRAGRANTcHORSEcBONEcTALLcHAIRcFIGHTcSACRIFICIAL WINEcCAULDRONcGHOSTcFISHcBIRDcSALTcDEERcWHEATcHEMPcYELLOW",
  "cMILLETcBLACKcEMBROIDERYcFROGcTRIPODcDRUMcRATcNOSEcEVENcTOOTHcDRAGONcTURTLEcFLUTE",
  "2FF0 aIDEOGRAPHIC DESCRIPTION CHARACTER LEFT TO RIGHTdABOVE TO BELOWdLEFT TO MIDDLE AND RIGHT",
  "dABOVE TO MIDDLE AND BELOWdFULL SURROUNDdSURROUND FROM ABOVEfBELOWfLEFTfUPPER LEFTgRIGHTfLOWER LEFTdOVERLAID"]

end SpellLint.Text
