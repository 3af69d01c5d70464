/-! # Names of the characters from U+0020 to U+0FFF -/

set_option autoImplicit false

namespace SpellLint.Text

/-- Runs of names in the form that is described at the search for a name. -/
def lettersNames : List String := [
  "20 aSPACEaEXCLAMATION MARKaQUOTATION MARKaNUMBER SIGNaDOLLAR SIGNaPERCENT SIGNaAMPERSANDaAPOSTROPHE",
  "aLEFT PARENTHESISaRIGHT PARENTHESISaASTERISKaPLUS SIGNaCOMMAaHYPHEN-MINUSaFULL STOPaSOLIDUSaDIGIT ZERObONEbTWO",
  "bTHREEbFOURbFIVEbSIXbSEVENbEIGHTbNINEaCOLONaSEMICOLONaLESS-THAN SIGNaEQUALS SIGNaGREATER-THAN SIGNaQUESTION MARK",
  "aCOMMERCIAL ATaLATIN CAPITAL LETTER AdBdCdDdEdFdGdHdIdJdKdLdMdNdOdPdQdRdSdTdUdVdWdXdYdZaLEFT SQUARE BRACKET",
  "aREVERSE SOLIDUSaRIGHT SQUARE BRACKETaCIRCUMFLEX ACCENTaLOW LINEaGRAVE ACCENTaLATIN SMALL LETTER AdBdCdDdEdFdGdH",
  "dIdJdKdLdMdNdOdPdQdRdSdTdUdVdWdXdYdZaLEFT CURLY BRACKETaVERTICAL LINEaRIGHT CURLY BRACKETaTILDE",
  "A0 aNO-BREAK SPACEaINVERTED EXCLAMATION MARKaCENT SIGNaPOUND SIGNaCURRENCY SIGNaYEN SIGNaBROKEN BARaSECTION SIGN",
  "aDIAERESISaCOPYRIGHT SIGNaFEMININE ORDINAL INDICATORaLEFT-POINTING DOUBLE ANGLE QUOTATION MARKaNOT SIGN",
  "aSOFT HYPHENaREGISTERED SIGNaMACRONaDEGREE SIGNaPLUS-MINUS SIGNaSUPERSCRIPT TWObTHREEaACUTE ACCENTaMICRO SIGN",
  "aPILCROW SIGNaMIDDLE DOTaCEDILLAaSUPERSCRIPT ONEaMASCULINE ORDINAL INDICATOR",
  "aRIGHT-POINTING DOUBLE ANGLE QUOTATION MARKaVULGAR FRACTION ONE QUARTERdHALFcTHREE QUARTERS",
  "aINVERTED QUESTION MARKaLATIN CAPITAL LETTER A WITH GRAVEfACUTEfCIRCUMFLEXfTILDEfDIAERESISfRING ABOVEdAE",
  "dC WITH CEDILLAdE WITH GRAVEfACUTEfCIRCUMFLEXfDIAERESISdI WITH GRAVEfACUTEfCIRCUMFLEXfDIAERESISdETHdN WITH TILDE",
  "dO WITH GRAVEfACUTEfCIRCUMFLEXfTILDEfDIAERESISaMULTIPLICATION SIGNaLATIN CAPITAL LETTER O WITH STROKE",
  "dU WITH GRAVEfACUTEfCIRCUMFLEXfDIAERESISdY WITH ACUTEdTHORNbSMALL LETTER SHARP SdA WITH GRAVEfACUTEfCIRCUMFLEX",
  "fTILDEfDIAERESISfRING ABOVEdAEdC WITH CEDILLAdE WITH GRAVEfACUTEfCIRCUMFLEXfDIAERESISdI WITH GRAVEfACUTE",
  "fCIRCUMFLEXfDIAERESISdETHdN WITH TILDEdO WITH GRAVEfACUTEfCIRCUMFLEXfTILDEfDIAERESISaDIVISION SIGN",
  "aLATIN SMALL LETTER O WITH STROKEdU WITH GRAVEfACUTEfCIRCUMFLEXfDIAERESISdY WITH ACUTEdTHORNdY WITH DIAERESIS",
  "bCAPITAL LETTER A WITH MACRON~bCAPITAL LETTER A WITH BREVE~bCAPITAL LETTER A WITH OGONEK~",
  "bCAPITAL LETTER C WITH ACUTE~bCAPITAL LETTER C WITH CIRCUMFLEX~bCAPITAL LETTER C WITH DOT ABOVE~",
  "bCAPITAL LETTER C WITH CARON~bCAPITAL LETTER D WITH CARON~bCAPITAL LETTER D WITH STROKE~",
  "bCAPITAL LETTER E WITH MACRON~bCAPITAL LETTER E WITH BREVE~bCAPITAL LETTER E WITH DOT ABOVE~",
  "bCAPITAL LETTER E WITH OGONEK~bCAPITAL LETTER E WITH CARON~bCAPITAL LETTER G WITH CIRCUMFLEX~",
  "bCAPITAL LETTER G WITH BREVE~bCAPITAL LETTER G WITH DOT ABOVE~bCAPITAL LETTER G WITH CEDILLA~",
  "bCAPITAL LETTER H WITH CIRCUMFLEX~bCAPITAL LETTER H WITH STROKE~bCAPITAL LETTER I WITH TILDE~",
  "bCAPITAL LETTER I WITH MACRON~bCAPITAL LETTER I WITH BREVE~bCAPITAL LETTER I WITH OGONEK~",
  "bCAPITAL LETTER I WITH DOT ABOVEbSMALL LETTER DOTLESS IbCAPITAL LIGATURE IJ~bCAPITAL LETTER J WITH CIRCUMFLEX~",
  "bCAPITAL LETTER K WITH CEDILLA~dKRAbCAPITAL LETTER L WITH ACUTE~bCAPITAL LETTER L WITH CEDILLA~",
  "bCAPITAL LETTER L WITH CARON~bCAPITAL LETTER L WITH MIDDLE DOT~bCAPITAL LETTER L WITH STROKE~",
  "bCAPITAL LETTER N WITH ACUTE~bCAPITAL LETTER N WITH CEDILLA~bCAPITAL LETTER N WITH CARON~ePRECEDED BY APOSTROPHE",
  "bCAPITAL LETTER ENG~bCAPITAL LETTER O WITH MACRON~bCAPITAL LETTER O WITH BREVE~",
  "bCAPITAL LETTER O WITH DOUBLE ACUTE~bCAPITAL LIGATURE OE~bCAPITAL LETTER R WITH ACUTE~",
  "bCAPITAL LETTER R WITH CEDILLA~bCAPITAL LETTER R WITH CARON~bCAPITAL LETTER S WITH ACUTE~",
  "bCAPITAL LETTER S WITH CIRCUMFLEX~bCAPITAL LETTER S WITH CEDILLA~bCAPITAL LETTER S WITH CARON~",
  "bCAPITAL LETTER T WITH CEDILLA~bCAPITAL LETTER T WITH CARON~bCAPITAL LETTER T WITH STROKE~",
  "bCAPITAL LETTER U WITH TILDE~bCAPITAL LETTER U WITH MACRON~bCAPITAL LETTER U WITH BREVE~",
  "bCAPITAL LETTER U WITH RING ABOVE~bCAPITAL LETTER U WITH DOUBLE ACUTE~bCAPITAL LETTER U WITH OGONEK~",
  "bCAPITAL LETTER W WITH CIRCUMFLEX~bCAPITAL LETTER Y WITH CIRCUMFLEX~bCAPITAL LETTER Y WITH DIAERESIS",
  "dZ WITH ACUTE~bCAPITAL LETTER Z WITH DOT ABOVE~bCAPITAL LETTER Z WITH CARON~dLONG SdB WITH STROKE",
  "bCAPITAL LETTER B WITH HOOKfTOPBAR~bCAPITAL LETTER TONE SIX~bCAPITAL LETTER OPEN OdC WITH HOOK~",
  "bCAPITAL LETTER AFRICAN DdD WITH HOOKfTOPBAR~dTURNED DELTAbCAPITAL LETTER REVERSED EdSCHWAdOPEN EdF WITH HOOK~",
  "bCAPITAL LETTER G WITH HOOKdGAMMAbSMALL LETTER HVbCAPITAL LETTER IOTAdI WITH STROKEdK WITH HOOK~dL WITH BAR",
  "dLAMBDA WITH STROKEbCAPITAL LETTER TURNED MdN WITH LEFT HOOKbSMALL LETTER N WITH LONG RIGHT LEG",
  "bCAPITAL LETTER O WITH MIDDLE TILDEfHORN~bCAPITAL LETTER OI~bCAPITAL LETTER P WITH HOOK~bLETTER YR",
  "bCAPITAL LETTER TONE TWO~bCAPITAL LETTER ESHbLETTER REVERSED ESH LOOPbSMALL LETTER T WITH PALATAL HOOK",
  "bCAPITAL LETTER T WITH HOOK~bCAPITAL LETTER T WITH RETROFLEX HOOKdU WITH HORN~bCAPITAL LETTER UPSILON",
  "dV WITH HOOKdY WITH HOOK~bCAPITAL LETTER Z WITH STROKE~bCAPITAL LETTER EZHeREVERSED~eWITH TAIL",
  "bLETTER TWO WITH STROKEbCAPITAL LETTER TONE FIVE~bLETTER INVERTED GLOTTAL STOP WITH STROKEcWYNNcDENTAL CLICK",
  "cLATERAL CLICKcALVEOLAR CLICKcRETROFLEX CLICKbCAPITAL LETTER DZ WITH CARONdD WITH SMALL LETTER Z WITH CARON",
  "bSMALL LETTER DZ WITH CARONbCAPITAL LETTER LJdL WITH SMALL LETTER JbSMALL LETTER LJbCAPITAL LETTER NJ",
  "dN WITH SMALL LETTER JbSMALL LETTER NJbCAPITAL LETTER A WITH CARON~bCAPITAL LETTER I WITH CARON~",
  "bCAPITAL LETTER O WITH CARON~bCAPITAL LETTER U WITH CARON~bCAPITAL LETTER U WITH DIAERESIS AND MACRON~",
  "bCAPITAL LETTER U WITH DIAERESIS AND ACUTE~bCAPITAL LETTER U WITH DIAERESIS AND CARON~",
  "bCAPITAL LETTER U WITH DIAERESIS AND GRAVE~dTURNED EbCAPITAL LETTER A WITH DIAERESIS AND MACRON~",
  "bCAPITAL LETTER A WITH DOT ABOVE AND MACRON~bCAPITAL LETTER AE WITH MACRON~bCAPITAL LETTER G WITH STROKE~",
  "bCAPITAL LETTER G WITH CARON~bCAPITAL LETTER K WITH CARON~bCAPITAL LETTER O WITH OGONEK~",
  "bCAPITAL LETTER O WITH OGONEK AND MACRON~bCAPITAL LETTER EZH WITH CARON~dJ WITH CARONbCAPITAL LETTER DZ",
  "dD WITH SMALL LETTER ZbSMALL LETTER DZbCAPITAL LETTER G WITH ACUTE~bCAPITAL LETTER HWAIRdWYNNdN WITH GRAVE~",
  "bCAPITAL LETTER A WITH RING ABOVE AND ACUTE~bCAPITAL LETTER AE WITH ACUTE~",
  "bCAPITAL LETTER O WITH STROKE AND ACUTE~bCAPITAL LETTER A WITH DOUBLE GRAVE~",
  "bCAPITAL LETTER A WITH INVERTED BREVE~bCAPITAL LETTER E WITH DOUBLE GRAVE~bCAPITAL LETTER E WITH INVERTED BREVE~",
  "bCAPITAL LETTER I WITH DOUBLE GRAVE~bCAPITAL LETTER I WITH INVERTED BREVE~bCAPITAL LETTER O WITH DOUBLE GRAVE~",
  "bCAPITAL LETTER O WITH INVERTED BREVE~bCAPITAL LETTER R WITH DOUBLE GRAVE~bCAPITAL LETTER R WITH INVERTED BREVE~",
  "bCAPITAL LETTER U WITH DOUBLE GRAVE~bCAPITAL LETTER U WITH INVERTED BREVE~bCAPITAL LETTER S WITH COMMA BELOW~",
  "bCAPITAL LETTER T WITH COMMA BELOW~bCAPITAL LETTER YOGH~bCAPITAL LETTER H WITH CARON~",
  "bCAPITAL LETTER N WITH LONG RIGHT LEGbSMALL LETTER D WITH CURLbCAPITAL LETTER OU~bCAPITAL LETTER Z WITH HOOK~",
  "bCAPITAL LETTER A WITH DOT ABOVE~bCAPITAL LETTER E WITH CEDILLA~bCAPITAL LETTER O WITH DIAERESIS AND MACRON~",
  "bCAPITAL LETTER O WITH TILDE AND MACRON~bCAPITAL LETTER O WITH DOT ABOVE~",
  "bCAPITAL LETTER O WITH DOT ABOVE AND MACRON~bCAPITAL LETTER Y WITH MACRON~dL WITH CURLdN WITH CURLdT WITH CURL",
  "dDOTLESS JdDB DIGRAPHdQP DIGRAPHbCAPITAL LETTER A WITH STROKEdC WITH STROKE~bCAPITAL LETTER L WITH BAR",
  "dT WITH DIAGONAL STROKEbSMALL LETTER S WITH SWASH TAILdZ WITH SWASH TAILbCAPITAL LETTER GLOTTAL STOP~",
  "bCAPITAL LETTER B WITH STROKEdU BARdTURNED VdE WITH STROKE~bCAPITAL LETTER J WITH STROKE~",
  "bCAPITAL LETTER SMALL Q WITH HOOK TAILbSMALL LETTER Q WITH HOOK TAILbCAPITAL LETTER R WITH STROKE~",
  "bCAPITAL LETTER Y WITH STROKE~dTURNED AdALPHAdTURNED ALPHAdB WITH HOOKdOPEN OdC WITH CURLdD WITH TAILfHOOK",
  "dREVERSED EdSCHWAeWITH HOOKdOPEN EdREVERSED OPEN EgWITH HOOKdCLOSED REVERSED OPEN EdDOTLESS J WITH STROKE",
  "dG WITH HOOKdSCRIPT GbLETTER SMALL CAPITAL GbSMALL LETTER GAMMAdRAMS HORNdTURNED HdH WITH HOOKdHENG WITH HOOK",
  "dI WITH STROKEdIOTAbLETTER SMALL CAPITAL IbSMALL LETTER L WITH MIDDLE TILDEfBELTfRETROFLEX HOOKdLEZHdTURNED M",
  "fWITH LONG LEGdM WITH HOOKdN WITH LEFT HOOKfRETROFLEX HOOKbLETTER SMALL CAPITAL NbSMALL LETTER BARRED O",
  "bLETTER SMALL CAPITAL OEbSMALL LETTER CLOSED OMEGAdPHIdTURNED RfWITH LONG LEGgHOOKdR WITH LONG LEGfTAILfFISHHOOK",
  "dREVERSED R WITH FISHHOOKbLETTER SMALL CAPITAL ReINVERTED RbSMALL LETTER S WITH HOOKdESH",
  "dDOTLESS J WITH STROKE AND HOOKdSQUAT REVERSED ESHdESH WITH CURLdTURNED TdT WITH RETROFLEX HOOKdU BARdUPSILON",
  "dV WITH HOOKdTURNED VeWeYbLETTER SMALL CAPITAL YbSMALL LETTER Z WITH RETROFLEX HOOKfCURLdEZHeWITH CURL",
  "bLETTER GLOTTAL STOPcPHARYNGEAL VOICED FRICATIVEcINVERTED GLOTTAL STOPcSTRETCHED CcBILABIAL CLICK",
  "cSMALL CAPITAL BbSMALL LETTER CLOSED OPEN EbLETTER SMALL CAPITAL G WITH HOOKeHbSMALL LETTER J WITH CROSSED-TAIL",
  "dTURNED KbLETTER SMALL CAPITAL LbSMALL LETTER Q WITH HOOKbLETTER GLOTTAL STOP WITH STROKE",
  "cREVERSED GLOTTAL STOP WITH STROKEbSMALL LETTER DZ DIGRAPHdDEZH DIGRAPHdDZ DIGRAPH WITH CURLdTS DIGRAPH",
  "dTESH DIGRAPHdTC DIGRAPH WITH CURLdFENG DIGRAPHdLS DIGRAPHdLZ DIGRAPHbLETTER BILABIAL PERCUSSIVE",
  "cBIDENTAL PERCUSSIVEbSMALL LETTER TURNED H WITH FISHHOOKhAND TAILaMODIFIER LETTER SMALL HeWITH HOOKdJdRdTURNED R",
  "fWITH HOOKdCAPITAL INVERTED RdWdYcPRIMEcDOUBLE PRIMEcTURNED COMMAcAPOSTROPHEcREVERSED COMMAcRIGHT HALF RING",
  "cLEFT HALF RINGcGLOTTAL STOPcREVERSED GLOTTAL STOPcLEFT ARROWHEADcRIGHT ARROWHEADcUP ARROWHEADcDOWN ARROWHEAD",
  "cCIRCUMFLEX ACCENTaCARONaMODIFIER LETTER VERTICAL LINEcMACRONcACUTE ACCENTcGRAVE ACCENTcLOW VERTICAL LINEdMACRON",
  "dGRAVE ACCENTdACUTE ACCENTcTRIANGULAR COLONcHALF TRIANGULAR COLONcCENTRED RIGHT HALF RINGdLEFT HALF RINGcUP TACK",
  "cDOWN TACKcPLUS SIGNcMINUS SIGNaBREVEaDOT ABOVEaRING ABOVEaOGONEKaSMALL TILDEaDOUBLE ACUTE ACCENT",
  "aMODIFIER LETTER RHOTIC HOOKcCROSS ACCENTcSMALL GAMMAdLdSdXdREVERSED GLOTTAL STOPcEXTRA-HIGH TONE BAR",
  "cHIGH TONE BARcMID TONE BARcLOW TONE BARcEXTRA-LOW TONE BARcYIN DEPARTING TONE MARKcYANG DEPARTING TONE MARK",
  "cVOICINGcUNASPIRATEDcDOUBLE APOSTROPHEcLOW DOWN ARROWHEADdUP ARROWHEADdLEFT ARROWHEADdRIGHT ARROWHEADdRING",
  "cMIDDLE GRAVE ACCENTdDOUBLE GRAVE ACCENTeACUTE ACCENTcLOW TILDEcRAISED COLONcBEGIN HIGH TONEcEND HIGH TONE",
  "cBEGIN LOW TONEcEND LOW TONEcSHELFcOPEN SHELFcLOW LEFT ARROWaCOMBINING GRAVE ACCENTbACUTE ACCENT",
  "bCIRCUMFLEX ACCENTbTILDEbMACRONbOVERLINEbBREVEbDOT ABOVEbDIAERESISbHOOK ABOVEbRING ABOVEbDOUBLE ACUTE ACCENT",
  "bCARONbVERTICAL LINE ABOVEbDOUBLE VERTICAL LINE ABOVEcGRAVE ACCENTbCANDRABINDUbINVERTED BREVEbTURNED COMMA ABOVE",
  "bCOMMA ABOVEbREVERSED COMMA ABOVEbCOMMA ABOVE RIGHTbGRAVE ACCENT BELOWbACUTE ACCENT BELOWbLEFT TACK BELOW",
  "bRIGHT TACK BELOWbLEFT ANGLE ABOVEbHORNbLEFT HALF RING BELOWbUP TACK BELOWbDOWN TACK BELOWbPLUS SIGN BELOW",
  "bMINUS SIGN BELOWbPALATALIZED HOOK BELOWbRETROFLEX HOOK BELOWbDOT BELOWbDIAERESIS BELOWbRING BELOWbCOMMA BELOW",
  "bCEDILLAbOGONEKbVERTICAL LINE BELOWbBRIDGE BELOWbINVERTED DOUBLE ARCH BELOWbCARON BELOWbCIRCUMFLEX ACCENT BELOW",
  "bBREVE BELOWbINVERTED BREVE BELOWbTILDE BELOWbMACRON BELOWbLOW LINEbDOUBLE LOW LINEbTILDE OVERLAY",
  "bSHORT STROKE OVERLAYbLONG STROKE OVERLAYbSHORT SOLIDUS OVERLAYbLONG SOLIDUS OVERLAYbRIGHT HALF RING BELOW",
  "bINVERTED BRIDGE BELOWbSQUARE BELOWbSEAGULL BELOWbX ABOVEbVERTICAL TILDEbDOUBLE OVERLINEbGRAVE TONE MARK",
  "bACUTE TONE MARKbGREEK PERISPOMENIcKORONIScDIALYTIKA TONOScYPOGEGRAMMENIbBRIDGE ABOVEbEQUALS SIGN BELOW",
  "bDOUBLE VERTICAL LINE BELOWbLEFT ANGLE BELOWbNOT TILDE ABOVEbHOMOTHETIC ABOVEbALMOST EQUAL TO ABOVE",
  "bLEFT RIGHT ARROW BELOWbUPWARDS ARROW BELOWbGRAPHEME JOINERbRIGHT ARROWHEAD ABOVEbLEFT HALF RING ABOVEbFERMATA",
  "bX BELOWbLEFT ARROWHEAD BELOWbRIGHT ARROWHEAD BELOWdAND UP ARROWHEAD BELOWcHALF RING ABOVEbDOT ABOVE RIGHT",
  "bASTERISK BELOWbDOUBLE RING BELOWbZIGZAG ABOVEbDOUBLE BREVE BELOWcBREVEcMACRONdBELOWcTILDEcINVERTED BREVE",
  "cRIGHTWARDS ARROW BELOWbLATIN SMALL LETTER AeEeIeOeUeCeDeHeMeReTeVeXaGREEK CAPITAL LETTER HETA~",
  "bCAPITAL LETTER ARCHAIC SAMPI~bNUMERAL SIGNbLOWER NUMERAL SIGNbCAPITAL LETTER PAMPHYLIAN DIGAMMA~",
  "37A bYPOGEGRAMMENIbSMALL REVERSED LUNATE SIGMA SYMBOLcDOTTED LUNATE SIGMA SYMBOL",
  "cREVERSED DOTTED LUNATE SIGMA SYMBOLbQUESTION MARKbCAPITAL LETTER YOT",
  "384 bTONOSbDIALYTIKA TONOSbCAPITAL LETTER ALPHA WITH TONOSbANO TELEIAbCAPITAL LETTER EPSILON WITH TONOS",
  "dETA WITH TONOSdIOTA WITH TONOS",
  "38C dOMICRON WITH TONOS",
  "38E dUPSILON WITH TONOSdOMEGA WITH TONOSbSMALL LETTER IOTA WITH DIALYTIKA AND TONOSbCAPITAL LETTER ALPHAdBETA",
  "dGAMMAdDELTAdEPSILONdZETAdETAdTHETAdIOTAdKAPPAdLAMDAdMUdNUdXIdOMICRONdPIdRHO",
  "3A3 dSIGMAdTAUdUPSILONdPHIdCHIdPSIdOMEGAdIOTA WITH DIALYTIKAdUPSILON WITH DIALYTIKA",
  "bSMALL LETTER ALPHA WITH TONOSdEPSILON WITH TONOSdETA WITH TONOSdIOTA WITH TONOS",
  "dUPSILON WITH DIALYTIKA AND TONOSdALPHAdBETAdGAMMAdDELTAdEPSILONdZETAdETAdTHETAdIOTAdKAPPAdLAMDAdMUdNUdXI",
  "dOMICRONdPIdRHOdFINAL SIGMAdSIGMAdTAUdUPSILONdPHIdCHIdPSIdOMEGAdIOTA WITH DIALYTIKAdUPSILON WITH DIALYTIKA",
  "dOMICRON WITH TONOSdUPSILON WITH TONOSdOMEGA WITH TONOSbCAPITAL KAI SYMBOLbBETA SYMBOLbTHETA SYMBOL",
  "bUPSILON WITH HOOK SYMBOLdACUTE AND HOOK SYMBOLdDIAERESIS AND HOOK SYMBOLbPHI SYMBOLbPI SYMBOLbKAI SYMBOL",
  "bLETTER ARCHAIC KOPPAbSMALL LETTER ARCHAIC KOPPAbLETTER STIGMAbSMALL LETTER STIGMAbLETTER DIGAMMA",
  "bSMALL LETTER DIGAMMAbLETTER KOPPAbSMALL LETTER KOPPAbLETTER SAMPIbSMALL LETTER SAMPIaCOPTIC CAPITAL LETTER SHEI",
  "~bCAPITAL LETTER FEI~bCAPITAL LETTER KHEI~bCAPITAL LETTER HORI~bCAPITAL LETTER GANGIA~bCAPITAL LETTER SHIMA~",
  "bCAPITAL LETTER DEI~aGREEK KAPPA SYMBOLbRHO SYMBOLbLUNATE SIGMA SYMBOLbLETTER YOTbCAPITAL THETA SYMBOL",
  "bLUNATE EPSILON SYMBOLbREVERSED LUNATE EPSILON SYMBOLbCAPITAL LETTER SHO~bCAPITAL LUNATE SIGMA SYMBOLcLETTER SAN",
  "~bRHO WITH STROKE SYMBOLbCAPITAL REVERSED LUNATE SIGMA SYMBOLcDOTTED LUNATE SIGMA SYMBOL",
  "cREVERSED DOTTED LUNATE SIGMA SYMBOLaCYRILLIC CAPITAL LETTER IE WITH GRAVEdIOdDJEdGJEdUKRAINIAN IEdDZE",
  "dBYELORUSSIAN-UKRAINIAN IdYIdJEdLJEdNJEdTSHEdKJEdI WITH GRAVEdSHORT UdDZHEdAdBEdVEdGHEdDEdIEdZHEdZEdIdSHORT IdKA",
  "dELdEMdENdOdPEdERdESdTEdUdEFdHAdTSEdCHEdSHAdSHCHAdHARD SIGNdYERUdSOFT SIGNdEdYUdYAbSMALL LETTER AdBEdVEdGHEdDE",
  "dIEdZHEdZEdIdSHORT IdKAdELdEMdENdOdPEdERdESdTEdUdEFdHAdTSEdCHEdSHAdSHCHAdHARD SIGNdYERUdSOFT SIGNdEdYUdYA",
  "dIE WITH GRAVEdIOdDJEdGJEdUKRAINIAN IEdDZEdBYELORUSSIAN-UKRAINIAN IdYIdJEdLJEdNJEdTSHEdKJEdI WITH GRAVEdSHORT U",
  "dDZHEbCAPITAL LETTER OMEGA~bCAPITAL LETTER YAT~bCAPITAL LETTER IOTIFIED E~bCAPITAL LETTER LITTLE YUS~",
  "bCAPITAL LETTER IOTIFIED LITTLE YUS~bCAPITAL LETTER BIG YUS~bCAPITAL LETTER IOTIFIED BIG YUS~bCAPITAL LETTER KSI",
  "~bCAPITAL LETTER PSI~bCAPITAL LETTER FITA~bCAPITAL LETTER IZHITSA~",
  "bCAPITAL LETTER IZHITSA WITH DOUBLE GRAVE ACCENT~bCAPITAL LETTER UK~bCAPITAL LETTER ROUND OMEGA~",
  "bCAPITAL LETTER OMEGA WITH TITLO~bCAPITAL LETTER OT~bCAPITAL LETTER KOPPA~bTHOUSANDS SIGN",
  "aCOMBINING CYRILLIC TITLOcPALATALIZATIONcDASIA PNEUMATAcPSILI PNEUMATAcPOKRYTIEcHUNDRED THOUSANDS SIGN",
  "cMILLIONS SIGNaCYRILLIC CAPITAL LETTER SHORT I WITH TAIL~bCAPITAL LETTER SEMISOFT SIGN~",
  "bCAPITAL LETTER ER WITH TICK~bCAPITAL LETTER GHE WITH UPTURN~bCAPITAL LETTER GHE WITH STROKE~",
  "bCAPITAL LETTER GHE WITH MIDDLE HOOK~bCAPITAL LETTER ZHE WITH DESCENDER~bCAPITAL LETTER ZE WITH DESCENDER~",
  "bCAPITAL LETTER KA WITH DESCENDER~bCAPITAL LETTER KA WITH VERTICAL STROKE~bCAPITAL LETTER KA WITH STROKE~",
  "bCAPITAL LETTER BASHKIR KA~bCAPITAL LETTER EN WITH DESCENDER~bCAPITAL LIGATURE EN GHE~",
  "bCAPITAL LETTER PE WITH MIDDLE HOOK~bCAPITAL LETTER ABKHASIAN HA~bCAPITAL LETTER ES WITH DESCENDER~",
  "bCAPITAL LETTER TE WITH DESCENDER~bCAPITAL LETTER STRAIGHT U~bCAPITAL LETTER STRAIGHT U WITH STROKE~",
  "bCAPITAL LETTER HA WITH DESCENDER~bCAPITAL LIGATURE TE TSE~bCAPITAL LETTER CHE WITH DESCENDER~",
  "bCAPITAL LETTER CHE WITH VERTICAL STROKE~bCAPITAL LETTER SHHA~bCAPITAL LETTER ABKHASIAN CHE~",
  "bCAPITAL LETTER ABKHASIAN CHE WITH DESCENDER~bLETTER PALOCHKAbCAPITAL LETTER ZHE WITH BREVE~",
  "bCAPITAL LETTER KA WITH HOOK~bCAPITAL LETTER EL WITH TAIL~bCAPITAL LETTER EN WITH HOOK~",
  "bCAPITAL LETTER EN WITH TAIL~bCAPITAL LETTER KHAKASSIAN CHE~bCAPITAL LETTER EM WITH TAIL~dPALOCHKA",
  "bCAPITAL LETTER A WITH BREVE~bCAPITAL LETTER A WITH DIAERESIS~bCAPITAL LIGATURE A IE~",
  "bCAPITAL LETTER IE WITH BREVE~bCAPITAL LETTER SCHWA~bCAPITAL LETTER SCHWA WITH DIAERESIS~",
  "bCAPITAL LETTER ZHE WITH DIAERESIS~bCAPITAL LETTER ZE WITH DIAERESIS~bCAPITAL LETTER ABKHASIAN DZE~",
  "bCAPITAL LETTER I WITH MACRON~bCAPITAL LETTER I WITH DIAERESIS~bCAPITAL LETTER O WITH DIAERESIS~",
  "bCAPITAL LETTER BARRED O~bCAPITAL LETTER BARRED O WITH DIAERESIS~bCAPITAL LETTER E WITH DIAERESIS~",
  "bCAPITAL LETTER U WITH MACRON~bCAPITAL LETTER U WITH DIAERESIS~bCAPITAL LETTER U WITH DOUBLE ACUTE~",
  "bCAPITAL LETTER CHE WITH DIAERESIS~bCAPITAL LETTER GHE WITH DESCENDER~bCAPITAL LETTER YERU WITH DIAERESIS~",
  "bCAPITAL LETTER GHE WITH STROKE AND HOOK~bCAPITAL LETTER HA WITH HOOK~bCAPITAL LETTER HA WITH STROKE~",
  "bCAPITAL LETTER KOMI DE~bCAPITAL LETTER KOMI DJE~bCAPITAL LETTER KOMI ZJE~bCAPITAL LETTER KOMI DZJE~",
  "bCAPITAL LETTER KOMI LJE~bCAPITAL LETTER KOMI NJE~bCAPITAL LETTER KOMI SJE~bCAPITAL LETTER KOMI TJE~",
  "bCAPITAL LETTER REVERSED ZE~bCAPITAL LETTER EL WITH HOOK~bCAPITAL LETTER LHA~bCAPITAL LETTER RHA~",
  "bCAPITAL LETTER YAE~bCAPITAL LETTER QA~bCAPITAL LETTER WE~bCAPITAL LETTER ALEUT KA~",
  "bCAPITAL LETTER EL WITH MIDDLE HOOK~bCAPITAL LETTER EN WITH MIDDLE HOOK~bCAPITAL LETTER PE WITH DESCENDER~",
  "bCAPITAL LETTER SHHA WITH DESCENDER~bCAPITAL LETTER EN WITH LEFT HOOK~bCAPITAL LETTER DZZHE~bCAPITAL LETTER DCHE",
  "~bCAPITAL LETTER EL WITH DESCENDER~",
  "531 aARMENIAN CAPITAL LETTER AYBdBENdGIMdDAdECHdZAdEHdETdTOdZHEdINIdLIWNdXEHdCAdKENdHOdJAdGHADdCHEHdMENdYIdNOW",
  "dSHAdVOdCHAdPEHdJHEHdRAdSEHdVEWdTIWNdREHdCOdYIWNdPIWRdKEHdOHdFEH",
  "559 bMODIFIER LETTER LEFT HALF RINGbAPOSTROPHEbEMPHASIS MARKbEXCLAMATION MARKbCOMMAbQUESTION MARK",
  "bABBREVIATION MARKbSMALL LETTER TURNED AYBdAYBdBENdGIMdDAdECHdZAdEHdETdTOdZHEdINIdLIWNdXEHdCAdKENdHOdJAdGHAD",
  "dCHEHdMENdYIdNOWdSHAdVOdCHAdPEHdJHEHdRAdSEHdVEWdTIWNdREHdCOdYIWNdPIWRdKEHdOHdFEHcLIGATURE ECH YIWN",
  "cLETTER YI WITH STROKEbFULL STOPbHYPHEN",
  "58D aRIGHT-FACING ARMENIAN ETERNITY SIGNaLEFT-FACING ARMENIAN ETERNITY SIGNaARMENIAN DRAM SIGN",
  "591 aHEBREW ACCENT ETNAHTAcSEGOLcSHALSHELETcZAQEF QATANdGADOLcTIPEHAcREVIAcZARQAcPASHTAcYETIVcTEVIRcGERESH",
  "dMUQDAMcGERSHAYIMcQARNEY PARAcTELISHA GEDOLAcPAZERcATNAH HAFUKHcMUNAHcMAHAPAKHcMERKHAdKEFULAcDARGAcQADMA",
  "cTELISHA QETANAcYERAH BEN YOMOcOLEcILUYcDEHIcZINORbMARK MASORA CIRCLEbPOINT SHEVAcHATAF SEGOLdPATAHdQAMATScHIRIQ",
  "cTSEREcSEGOLcPATAHcQAMATScHOLAMdHASER FOR VAVcQUBUTScDAGESH OR MAPIQcMETEGbPUNCTUATION MAQAFbPOINT RAFE",
  "bPUNCTUATION PASEQbPOINT SHIN DOTcSIN DOTbPUNCTUATION SOF PASUQbMARK UPPER DOTcLOWER DOTbPUNCTUATION NUN HAFUKHA",
  "bPOINT QAMATS QATAN",
  "5D0 bLETTER ALEFcBETcGIMELcDALETcHEcVAVcZAYINcHETcTETcYODcFINAL KAFcKAFcLAMEDcFINAL MEMcMEMcFINAL NUNcNUNcSAMEKH",
  "cAYINcFINAL PEcPEcFINAL TSADIcTSADIcQOFcRESHcSHINcTAV",
  "5EF bYOD TRIANGLEbLIGATURE YIDDISH DOUBLE VAVdVAV YODdDOUBLE YODbPUNCTUATION GERESHcGERSHAYIM",
  "600 aARABIC NUMBER SIGNbSIGN SANAHbFOOTNOTE MARKERbSIGN SAFHAcSAMVATbNUMBER MARK ABOVEaARABIC-INDIC CUBE ROOT",
  "bFOURTH ROOTaARABIC RAYaARABIC-INDIC PER MILLE SIGNcTEN THOUSAND SIGNaAFGHANI SIGNaARABIC COMMAbDATE SEPARATOR",
  "bPOETIC VERSE SIGNbSIGN MISRAcSALLALLAHOU ALAYHE WASSALLAMcALAYHE ASSALLAMcRAHMATULLAH ALAYHEcRADI ALLAHOU ANHU",
  "cTAKHALLUSbSMALL HIGH TAHdLIGATURE ALEF WITH LAM WITH YEHdZAINcFATHAcDAMMAcKASRAbSEMICOLONbLETTER MARK",
  "bEND OF TEXT MARKbTRIPLE DOT PUNCTUATION MARKbQUESTION MARKbLETTER KASHMIRI YEHcHAMZAcALEF WITH MADDA ABOVE",
  "eHAMZA ABOVEcWAW WITH HAMZA ABOVEcALEF WITH HAMZA BELOWcYEH WITH HAMZA ABOVEcALEFcBEHcTEH MARBUTAcTEHcTHEHcJEEM",
  "cHAHcKHAHcDALcTHALcREHcZAINcSEENcSHEENcSADcDADcTAHcZAHcAINcGHAINcKEHEH WITH TWO DOTS ABOVEeTHREE DOTS BELOW",
  "cFARSI YEH WITH INVERTED VfTWO DOTS ABOVEfTHREE DOTS ABOVEbTATWEELbLETTER FEHcQAFcKAFcLAMcMEEMcNOONcHEHcWAW",
  "cALEF MAKSURAcYEHbFATHATANbDAMMATANbKASRATANbFATHAbDAMMAbKASRAbSHADDAbSUKUNbMADDAH ABOVEbHAMZA ABOVEcBELOW",
  "bSUBSCRIPT ALEFbINVERTED DAMMAbMARK NOON GHUNNAbZWARAKAYbVOWEL SIGN SMALL V ABOVEdINVERTED SMALL V ABOVE",
  "dDOT BELOWbREVERSED DAMMAbFATHA WITH TWO DOTSbWAVY HAMZA BELOWaARABIC-INDIC DIGIT ZEROcONEcTWOcTHREEcFOURcFIVE",
  "cSIXcSEVENcEIGHTcNINEaARABIC PERCENT SIGNbDECIMAL SEPARATORbTHOUSANDS SEPARATORbFIVE POINTED STAR",
  "bLETTER DOTLESS BEHdQAFcSUPERSCRIPT ALEFcALEF WASLAdWITH WAVY HAMZA ABOVEgBELOWcHIGH HAMZAeALEFeWAW",
  "cU WITH HAMZA ABOVEcHIGH HAMZA YEHcTTEHcTTEHEHcBEEHcTEH WITH RINGeTHREE DOTS ABOVE DOWNWARDScPEHcTEHEHcBEHEH",
  "cHAH WITH HAMZA ABOVEeTWO DOTS VERTICAL ABOVEcNYEHcDYEHcHAH WITH THREE DOTS ABOVEcTCHEHcTCHEHEHcDDAL",
  "cDAL WITH RINGeDOT BELOWgAND SMALL TAHcDAHALcDDAHALcDULcDAL WITH THREE DOTS ABOVE DOWNWARDSeFOUR DOTS ABOVEcRREH",
  "cREH WITH SMALL VeRINGeDOT BELOWeSMALL V BELOWeDOT BELOW AND DOT ABOVEeTWO DOTS ABOVEcJEH",
  "cREH WITH FOUR DOTS ABOVEcSEEN WITH DOT BELOW AND DOT ABOVEeTHREE DOTS BELOWhAND THREE DOTS ABOVE",
  "cSAD WITH TWO DOTS BELOWeTHREE DOTS ABOVEcTAH WITH THREE DOTS ABOVEcAIN WITH THREE DOTS ABOVEcDOTLESS FEH",
  "cFEH WITH DOT MOVED BELOWfBELOWcVEHcFEH WITH THREE DOTS BELOWcPEHEHcQAF WITH DOT ABOVEeTHREE DOTS ABOVEcKEHEH",
  "cSWASH KAFcKAF WITH RINGeDOT ABOVEcNGcKAF WITH THREE DOTS BELOWcGAFdWITH RINGcNGOEHcGAF WITH TWO DOTS BELOWcGUEH",
  "cGAF WITH THREE DOTS ABOVEcLAM WITH SMALL VeDOT ABOVEeTHREE DOTS ABOVEgBELOWcNOON WITH DOT BELOWdGHUNNAcRNOON",
  "cNOON WITH RINGeTHREE DOTS ABOVEcHEH DOACHASHMEEcTCHEH WITH DOT ABOVEcHEH WITH YEH ABOVEdGOALeWITH HAMZA ABOVE",
  "cTEH MARBUTA GOALcWAW WITH RINGcKIRGHIZ OEcOEcUcYUcKIRGHIZ YUcWAW WITH TWO DOTS ABOVEcVEcFARSI YEHcYEH WITH TAIL",
  "eSMALL VcWAW WITH DOT ABOVEcEcYEH WITH THREE DOTS BELOWdBARREEeWITH HAMZA ABOVEbFULL STOPbLETTER AE",
  "bSMALL HIGH LIGATURE SAD WITH LAM WITH ALEF MAKSURAeQAF WITH LAM WITH ALEF MAKSURAdMEEM INITIAL FORMdLAM ALEF",
  "dJEEMdTHREE DOTSdSEENbEND OF AYAHbSTART OF RUB EL HIZBbSMALL HIGH ROUNDED ZEROdUPRIGHT RECTANGULAR ZERO",
  "dDOTLESS HEAD OF KHAHdMEEM ISOLATED FORMcLOW SEENcHIGH MADDAcWAWcYEHcHIGH YEHdNOONbPLACE OF SAJDAH",
  "bEMPTY CENTRE LOW STOPdHIGH STOPbROUNDED HIGH STOP WITH FILLED CENTREbSMALL LOW MEEMbLETTER DAL WITH INVERTED V",
  "cREH WITH INVERTED VaEXTENDED ARABIC-INDIC DIGIT ZEROdONEdTWOdTHREEdFOURdFIVEdSIXdSEVENdEIGHTdNINE",
  "aARABIC LETTER SHEEN WITH DOT BELOWcDAD WITH DOT BELOWcGHAIN WITH DOT BELOWbSIGN SINDHI AMPERSAND",
  "dPOSTPOSITION MENbLETTER HEH WITH INVERTED VaSYRIAC END OF PARAGRAPHbSUPRALINEAR FULL STOPbSUBLINEAR FULL STOP",
  "bSUPRALINEAR COLONbSUBLINEAR COLONbHORIZONTAL COLONbCOLON SKEWED LEFTdRIGHTbSUPRALINEAR COLON SKEWED LEFT",
  "bSUBLINEAR COLON SKEWED RIGHTbCONTRACTIONbHARKLEAN OBELUScMETOBELUScASTERISCUS",
  "70F bABBREVIATION MARKbLETTER ALAPHcSUPERSCRIPT ALAPHcBETHcGAMALdGARSHUNIcDALATHcDOTLESS DALATH RISHcHEcWAWcZAIN",
  "cHETHcTETHdGARSHUNIcYUDHdHEcKAPHcLAMADHcMIMcNUNcSEMKATHcFINAL SEMKATHcEcPEcREVERSED PEcSADHEcQAPHcRISHcSHINcTAW",
  "cPERSIAN BHETHdGHAMALdDHALATHbPTHAHA ABOVEcBELOWcDOTTEDbZQAPHA ABOVEcBELOWcDOTTEDbRBASA ABOVEcBELOW",
  "bDOTTED ZLAMA HORIZONTALdANGULARbHBASA ABOVEcBELOWbHBASA-ESASA DOTTEDbESASA ABOVEcBELOWbRWAHAbFEMININE DOT",
  "bQUSHSHAYAbRUKKAKHAbTWO VERTICAL DOTS ABOVEeBELOWbTHREE DOTS ABOVEdBELOWbOBLIQUE LINE ABOVEdBELOWbMUSICbBARREKH",
  "74D bLETTER SOGDIAN ZHAINdKHAPHdFEaARABIC LETTER BEH WITH THREE DOTS HORIZONTALLY BELOW",
  "eDOT BELOW AND THREE DOTS ABOVEeTHREE DOTS POINTING UPWARDS BELOWjAND TWO DOTS ABOVE",
  "eTWO DOTS BELOW AND DOT ABOVEeINVERTED SMALL V BELOWeSMALL VcHAH WITH TWO DOTS ABOVE",
  "eTHREE DOTS POINTING UPWARDS BELOWcDAL WITH TWO DOTS VERTICALLY BELOW AND SMALL TAHeINVERTED SMALL V BELOW",
  "cREH WITH STROKEcSEEN WITH FOUR DOTS ABOVEcAIN WITH TWO DOTS ABOVEeTHREE DOTS POINTING DOWNWARDS ABOVE",
  "eTWO DOTS VERTICALLY ABOVEcFEH WITH TWO DOTS BELOWeTHREE DOTS POINTING UPWARDS BELOWcKEHEH WITH DOT ABOVE",
  "eTHREE DOTS ABOVEgPOINTING UPWARDS BELOWcMEEM WITH DOT ABOVEfBELOWcNOON WITH TWO DOTS BELOWeSMALL TAHfV",
  "cLAM WITH BARcREH WITH TWO DOTS VERTICALLY ABOVEeHAMZA ABOVEcSEEN WITH TWO DOTS VERTICALLY ABOVE",
  "cHAH WITH SMALL ARABIC LETTER TAH BELOWiAND TWO DOTScSEEN WITH SMALL ARABIC LETTER TAH AND TWO DOTS",
  "cREH WITH SMALL ARABIC LETTER TAH AND TWO DOTScHAH WITH SMALL ARABIC LETTER TAH ABOVE",
  "cALEF WITH EXTENDED ARABIC-INDIC DIGIT TWO ABOVEhTHREE ABOVE",
  "cFARSI YEH WITH EXTENDED ARABIC-INDIC DIGIT TWO ABOVEiTHREE ABOVEiFOUR BELOW",
  "cWAW WITH EXTENDED ARABIC-INDIC DIGIT TWO ABOVEhTHREE ABOVE",
  "cYEH BARREE WITH EXTENDED ARABIC-INDIC DIGIT TWO ABOVEiTHREE ABOVE",
  "cHAH WITH EXTENDED ARABIC-INDIC DIGIT FOUR BELOWcSEEN WITH EXTENDED ARABIC-INDIC DIGIT FOUR ABOVEeINVERTED V",
  "cKAF WITH TWO DOTS ABOVEaTHAANA LETTER HAAcSHAVIYANIcNOONUcRAAcBAAcLHAVIYANIcKAAFUcALIFUcVAAVUcMEEMUcFAAFU",
  "cDHAALUcTHAAcLAAMUcGAAFUcGNAVIYANIcSEENUcDAVIYANIcZAVIYANIcTAVIYANIcYAAcPAVIYANIcJAVIYANIcCHAVIYANIcTTAAcHHAA",
  "cKHAAcTHAALUcZAAcSHEENUcSAADHUcDAADHUcTOcZOcAINUcGHAINUcQAAFUcWAAVUbABAFILIbAABAAFILIbIBIFILIbEEBEEFILIbUBUFILI",
  "bOOBOOFILIbEBEFILIbEYBEYFILIbOBOFILIbOABOAFILIbSUKUNbLETTER NAA",
  "7C0 aNKO DIGIT ZEROcONEcTWOcTHREEcFOURcFIVEcSIXcSEVENcEIGHTcNINEbLETTER AcEEcIcEcUcOOcOcDAGBASINNAcNcBAcPAcTAcJA",
  "cCHAcDAcRAcRRAcSAcGBAcFAcKAcLAcNA WOLOSOcMAcNYAcNAcHAcWAcYAcNYA WOLOSOcJONA JAdCHAdRAbCOMBINING SHORT HIGH TONE",
  "dLOW TONEdRISING TONEcLONG DESCENDING TONEdHIGH TONEdLOW TONEdRISING TONEcNASALIZATION MARKcDOUBLE DOT ABOVE",
  "bHIGH TONE APOSTROPHEbLOW TONE APOSTROPHEbSYMBOL OO DENNENcGBAKURUNENbCOMMAbEXCLAMATION MARKbLAJANYALAN",
  "7FD bDANTAYALANbDOROME SIGNbTAMAN SIGNaSAMARITAN LETTER ALAFcBITcGAMANcDALATcIYcBAAcZENcITcTITcYUTcKAAFcLABAT",
  "cMIMcNUNcSINGAATcINcFIcTSAADIYcQUFcRISHcSHANcTAAFbMARK INcIN-ALAFcOCCLUSIONcDAGESH",
  "bMODIFIER LETTER EPENTHETIC YUTbMARK EPENTHETIC YUTbVOWEL SIGN LONG EdEdOVERLONG AAdLONG AAdAAdOVERLONG AdLONG A",
  "dAbMODIFIER LETTER SHORT AbVOWEL SIGN SHORT AdLONG UdUbMODIFIER LETTER IbVOWEL SIGN LONG IdIdOdSUKUN",
  "bMARK NEQUDAA",
  "830 bPUNCTUATION NEQUDAAcAFSAAQcANGEDcBAUcATMAAUcSHIYYAALAAbABBREVIATION MARKbPUNCTUATION MELODIC QITSAcZIQAA",
  "cQITSAcZAEFcTURUcARKAANUcSOF MASHFAATcANNAAU",
  "840 aMANDAIC LETTER HALQAcABcAGcADcAHcUSHENNAcAZcITcATTcAKSAcAKcALcAMcANcAScINcAPcASZcAQcARcASHcATcDUSHENNAcKAD",
  "cAINbAFFRICATION MARKbVOCALIZATION MARKbGEMINATION MARK",
  "85E bPUNCTUATION",
  "860 aSYRIAC LETTER MALAYALAM NGAdJAdNYAdTTAdNNAdNNNAdBHAdRAdLLAdLLLAdSSA",
  "870 aARABIC LETTER ALEF WITH ATTACHED FATHAfTOP RIGHT FATHAeRIGHT MIDDLE STROKEeLEFT MIDDLE STROKE",
  "eATTACHED KASRAfBOTTOM RIGHT KASRAfROUND DOT ABOVEfRIGHT ROUND DOTfLEFT ROUND DOTfROUND DOT BELOWeDOT ABOVE",
  "eATTACHED TOP RIGHT FATHA AND DOT ABOVEeRIGHT MIDDLE STROKE AND DOT ABOVE",
  "eATTACHED BOTTOM RIGHT KASRA AND DOT ABOVEfTOP RIGHT FATHA AND LEFT RINGeRIGHT MIDDLE STROKE AND LEFT RING",
  "eATTACHED BOTTOM RIGHT KASRA AND LEFT RINGfRIGHT HAMZAfLEFT HAMZAbTATWEEL WITH OVERSTRUCK HAMZAeWAW",
  "dTWO DOTS BELOWbLETTER THIN YEHbBASELINE ROUND DOTbRAISED ROUND DOTbLETTER NOON WITH INVERTED SMALL V",
  "cHAH WITH INVERTED SMALL V BELOWcTAH WITH DOT BELOWeTHREE DOTS BELOWcKEHEH WITH TWO DOTS VERTICALLY BELOW",
  "bVERTICAL TAIL",
  "890 bPOUND MARK ABOVEbPIASTRE MARK ABOVE",
  "898 bSMALL HIGH WORD AL-JUZcLOW WORD ISHMAAMeIMAALAeTASHEELbMADDA WAAJIBbSUPERSCRIPT ALEF MOKHASSAS",
  "bDOUBLED MADDAbHALF MADDA OVER MADDAbLETTER BEH WITH SMALL V BELOWeHAMZA ABOVEcJEEM WITH TWO DOTS ABOVE",
  "cTAH WITH TWO DOTS ABOVEcFEH WITH DOT BELOW AND THREE DOTS ABOVEcQAF WITH DOT BELOWcLAM WITH DOUBLE BAR",
  "cMEEM WITH THREE DOTS ABOVEcYEH WITH TWO DOTS BELOW AND HAMZA ABOVEiDOT ABOVEcREH WITH LOOPcWAW WITH DOT WITHIN",
  "cROHINGYA YEHcLOW ALEFcDAL WITH THREE DOTS BELOWcSAD WITH THREE DOTS BELOWcGAF WITH INVERTED STROKEcSTRAIGHT WAW",
  "cZAIN WITH INVERTED V ABOVEcAIN WITH THREE DOTS BELOWcKAF WITH DOT BELOWcQAF WITH DOT BELOW AND NO DOTS ABOVE",
  "cBEH WITH SMALL MEEM ABOVEcPEH WITH SMALL MEEM ABOVEcTEH WITH SMALL TEH ABOVEcREH WITH SMALL NOON ABOVE",
  "cYEH WITH TWO DOTS BELOW AND SMALL NOON ABOVEcAFRICAN FEHdQAFdNOONcPEH WITH SMALL VcTEH WITH SMALL V",
  "cTTEH WITH SMALL VcTCHEH WITH SMALL VcKEHEH WITH SMALL VcGHAIN WITH THREE DOTS ABOVE",
  "cAFRICAN QAF WITH THREE DOTS ABOVEcJEEM WITH THREE DOTS ABOVEgBELOWcLAM WITH SMALL ARABIC LETTER TAH ABOVEcGRAF",
  "bSMALL FARSI YEHcHIGH FARSI YEHdYEH BARREE WITH TWO DOTS BELOWdWORD SAHdZAHbLARGE ROUND DOT ABOVEeBELOW",
  "bSUKUN BELOWbLARGE CIRCLE BELOWcROUND DOT INSIDE CIRCLE BELOWbSMALL LOW WAWcHIGH WORD AR-RUBdSADdAINdQAF",
  "dNOON WITH KASRAcLOW NOON WITH KASRAcHIGH WORD ATH-THALATHAeAS-SAJDAeAN-NISFeSAKTAeQIFeWAQFAdFOOTNOTE MARKER",
  "dSIGN SAFHAbDISPUTED END OF AYAHbTURNED DAMMA BELOWbCURLY FATHAcDAMMAcKASRAcFATHATANcDAMMATANcKASRATAN",
  "bTONE ONE DOT ABOVEcTWO DOTS ABOVEcLOOP ABOVEcONE DOT BELOWcTWO DOTS BELOWcLOOP BELOWbOPEN FATHATANcDAMMATAN",
  "cKASRATANbSMALL HIGH WAWbFATHA WITH RINGdDOT ABOVEbKASRA WITH DOT BELOWbLEFT ARROWHEAD ABOVE",
  "bRIGHT ARROWHEAD ABOVEbLEFT ARROWHEAD BELOWbRIGHT ARROWHEAD BELOWbDOUBLE RIGHT ARROWHEAD ABOVEfWITH DOT",
  "bRIGHT ARROWHEAD ABOVE WITH DOTbDAMMA WITH DOTbMARK SIDEWAYS NOON GHUNNAaDEVANAGARI SIGN INVERTED CANDRABINDU",
  "cCANDRABINDUcANUSVARAcVISARGAbLETTER SHORT AcAcAAcIcIIcUcUUcVOCALIC RdLcCANDRA EcSHORT EcEcAIcCANDRA OcSHORT OcO",
  "cAUcKAcKHAcGAcGHAcNGAcCAcCHAcJAcJHAcNYAcTTAcTTHAcDDAcDDHAcNNAcTAcTHAcDAcDHAcNAcNNNAcPAcPHAcBAcBHAcMAcYAcRAcRRA",
  "cLAcLLAcLLLAcVAcSHAcSSAcSAcHAbVOWEL SIGN OEdOOEbSIGN NUKTAcAVAGRAHAbVOWEL SIGN AAdIdIIdUdUUdVOCALIC ReRR",
  "dCANDRA EdSHORT EdEdAIdCANDRA OdSHORT OdOdAUbSIGN VIRAMAbVOWEL SIGN PRISHTHAMATRA EdAWbOMbSTRESS SIGN UDATTA",
  "dANUDATTAbGRAVE ACCENTbACUTE ACCENTbVOWEL SIGN CANDRA LONG EdUEdUUEbLETTER QAcKHHAcGHHAcZAcDDDHAcRHAcFAcYYA",
  "cVOCALIC RRdLLbVOWEL SIGN VOCALIC LeLLbDANDAbDOUBLE DANDAbDIGIT ZEROcONEcTWOcTHREEcFOURcFIVEcSIXcSEVENcEIGHT",
  "cNINEbABBREVIATION SIGNbSIGN HIGH SPACING DOTbLETTER CANDRA AcOEcOOEcAWcUEcUUEcMARWARI DDAcZHAcHEAVY YAcGGAcJJA",
  "cGLOTTAL STOPcDDDAcBBAaBENGALI ANJIbSIGN CANDRABINDUcANUSVARAcVISARGA",
  "985 bLETTER AcAAcIcIIcUcUUcVOCALIC RdL",
  "98F cEcAI",
  "993 cOcAUcKAcKHAcGAcGHAcNGAcCAcCHAcJAcJHAcNYAcTTAcTTHAcDDAcDDHAcNNAcTAcTHAcDAcDHAcNA",
  "9AA cPAcPHAcBAcBHAcMAcYAcRA",
  "9B2 cLA",
  "9B6 cSHAcSSAcSAcHA",
  "9BC bSIGN NUKTAcAVAGRAHAbVOWEL SIGN AAdIdIIdUdUUdVOCALIC ReRR",
  "9C7 dEdAI",
  "9CB dOdAUbSIGN VIRAMAbLETTER KHANDA TA",
  "9D7 bAU LENGTH MARK",
  "9DC bLETTER RRAcRHA",
  "9DF cYYAcVOCALIC RRdLLbVOWEL SIGN VOCALIC LeLL",
  "9E6 bDIGIT ZEROcONEcTWOcTHREEcFOURcFIVEcSIXcSEVENcEIGHTcNINEbLETTER RA WITH MIDDLE DIAGONALeLOWER DIAGONAL",
  "bRUPEE MARKcSIGNbCURRENCY NUMERATOR ONEdTWOdTHREEdFOURdONE LESS THAN THE DENOMINATORcDENOMINATOR SIXTEENbISSHAR",
  "bGANDA MARKbLETTER VEDIC ANUSVARAbABBREVIATION SIGNbSANDHI MARK",
  "A01 aGURMUKHI SIGN ADAK BINDIcBINDIcVISARGA",
  "A05 bLETTER AcAAcIcIIcUcUU",
  "A0F cEEcAI",
  "A13 cOOcAUcKAcKHAcGAcGHAcNGAcCAcCHAcJAcJHAcNYAcTTAcTTHAcDDAcDDHAcNNAcTAcTHAcDAcDHAcNA",
  "A2A cPAcPHAcBAcBHAcMAcYAcRA",
  "A32 cLAcLLA",
  "A35 cVAcSHA",
  "A38 cSAcHA",
  "A3C bSIGN NUKTA",
  "A3E bVOWEL SIGN AAdIdIIdUdUU",
  "A47 dEEdAI",
  "A4B dOOdAUbSIGN VIRAMA",
  "A51 cUDAAT",
  "A59 bLETTER KHHAcGHHAcZAcRRA",
  "A5E cFA",
  "A66 bDIGIT ZEROcONEcTWOcTHREEcFOURcFIVEcSIXcSEVENcEIGHTcNINEbTIPPIbADDAKbIRIbURAbEK ONKARbSIGN YAKASH",
  "bABBREVIATION SIGN",
  "A81 aGUJARATI SIGN CANDRABINDUcANUSVARAcVISARGA",
  "A85 bLETTER AcAAcIcIIcUcUUcVOCALIC RdLbVOWEL CANDRA E",
  "A8F bLETTER EcAIbVOWEL CANDRA O",
  "A93 bLETTER OcAUcKAcKHAcGAcGHAcNGAcCAcCHAcJAcJHAcNYAcTTAcTTHAcDDAcDDHAcNNAcTAcTHAcDAcDHAcNA",
  "AAA cPAcPHAcBAcBHAcMAcYAcRA",
  "AB2 cLAcLLA",
  "AB5 cVAcSHAcSSAcSAcHA",
  "ABC bSIGN NUKTAcAVAGRAHAbVOWEL SIGN AAdIdIIdUdUUdVOCALIC ReRRdCANDRA E",
  "AC7 dEdAIdCANDRA O",
  "ACB dOdAUbSIGN VIRAMA",
  "AD0 bOM",
  "AE0 bLETTER VOCALIC RRdLLbVOWEL SIGN VOCALIC LeLL",
  "AE6 bDIGIT ZEROcONEcTWOcTHREEcFOURcFIVEcSIXcSEVENcEIGHTcNINEbABBREVIATION SIGNbRUPEE SIGN",
  "AF9 bLETTER ZHAbSIGN SUKUNcSHADDAcMADDAHcTHREE-DOT NUKTA ABOVEcCIRCLE NUKTA ABOVEcTWO-CIRCLE NUKTA ABOVE",
  "B01 aORIYA SIGN CANDRABINDUcANUSVARAcVISARGA",
  "B05 bLETTER AcAAcIcIIcUcUUcVOCALIC RdL",
  "B0F cEcAI",
  "B13 cOcAUcKAcKHAcGAcGHAcNGAcCAcCHAcJAcJHAcNYAcTTAcTTHAcDDAcDDHAcNNAcTAcTHAcDAcDHAcNA",
  "B2A cPAcPHAcBAcBHAcMAcYAcRA",
  "B32 cLAcLLA",
  "B35 cVAcSHAcSSAcSAcHA",
  "B3C bSIGN NUKTAcAVAGRAHAbVOWEL SIGN AAdIdIIdUdUUdVOCALIC ReRR",
  "B47 dEdAI",
  "B4B dOdAUbSIGN VIRAMA",
  "B55 cOVERLINEbAI LENGTH MARKbAU LENGTH MARK",
  "B5C bLETTER RRAcRHA",
  "B5F cYYAcVOCALIC RRdLLbVOWEL SIGN VOCALIC LeLL",
  "B66 bDIGIT ZEROcONEcTWOcTHREEcFOURcFIVEcSIXcSEVENcEIGHTcNINEbISSHARbLETTER WAbFRACTION ONE QUARTERdHALF",
  "cTHREE QUARTERScONE SIXTEENTHdEIGHTHcTHREE SIXTEENTHS",
  "B82 aTAMIL SIGN ANUSVARAcVISARGA",
  "B85 bLETTER AcAAcIcIIcUcUU",
  "B8E cEcEEcAI",
  "B92 cOcOOcAUcKA",
  "B99 cNGAcCA",
  "B9C cJA",
  "B9E cNYAcTTA",
  "BA3 cNNAcTA",
  "BA8 cNAcNNNAcPA",
  "BAE cMAcYAcRAcRRAcLAcLLAcLLLAcVAcSHAcSSAcSAcHA",
  "BBE bVOWEL SIGN AAdIdIIdUdUU",
  "BC6 dEdEEdAI",
  "BCA dOdOOdAUbSIGN VIRAMA",
  "BD0 bOM",
  "BD7 bAU LENGTH MARK",
  "BE6 bDIGIT ZEROcONEcTWOcTHREEcFOURcFIVEcSIXcSEVENcEIGHTcNINEbNUMBER TENcONE HUNDREDdTHOUSANDbDAY SIGNbMONTH SIGN",
  "bYEAR SIGNbDEBIT SIGNbCREDIT SIGNbAS ABOVE SIGNbRUPEE SIGNbNUMBER SIGN",
  "C00 aTELUGU SIGN COMBINING CANDRABINDU ABOVEcCANDRABINDUcANUSVARAcVISARGAcCOMBINING ANUSVARA ABOVEbLETTER AcAAcI",
  "cIIcUcUUcVOCALIC RdL",
  "C0E cEcEEcAI",
  "C12 cOcOOcAUcKAcKHAcGAcGHAcNGAcCAcCHAcJAcJHAcNYAcTTAcTTHAcDDAcDDHAcNNAcTAcTHAcDAcDHAcNA",
  "C2A cPAcPHAcBAcBHAcMAcYAcRAcRRAcLAcLLAcLLLAcVAcSHAcSSAcSAcHA",
  "C3C bSIGN NUKTAcAVAGRAHAbVOWEL SIGN AAdIdIIdUdUUdVOCALIC ReRR",
  "C46 dEdEEdAI",
  "C4A dOdOOdAUbSIGN VIRAMA",
  "C55 bLENGTH MARKbAI LENGTH MARK",
  "C58 bLETTER TSAcDZAcRRRA",
  "C5D cNAKAARA POLLU",
  "C60 cVOCALIC RRdLLbVOWEL SIGN VOCALIC LeLL",
  "C66 bDIGIT ZEROcONEcTWOcTHREEcFOURcFIVEcSIXcSEVENcEIGHTcNINE",
  "C77 bSIGN SIDDHAMbFRACTION DIGIT ZERO FOR ODD POWERS OF FOURdONE FOR ODD POWERS OF FOUR",
  "dTWO FOR ODD POWERS OF FOURdTHREE FOR ODD POWERS OF FOURdONE FOR EVEN POWERS OF FOURdTWO FOR EVEN POWERS OF FOUR",
  "dTHREE FOR EVEN POWERS OF FOURbSIGN TUUMUaKANNADA SIGN SPACING CANDRABINDUcCANDRABINDUcANUSVARAcVISARGAcSIDDHAM",
  "bLETTER AcAAcIcIIcUcUUcVOCALIC RdL",
  "C8E cEcEEcAI",
  "C92 cOcOOcAUcKAcKHAcGAcGHAcNGAcCAcCHAcJAcJHAcNYAcTTAcTTHAcDDAcDDHAcNNAcTAcTHAcDAcDHAcNA",
  "CAA cPAcPHAcBAcBHAcMAcYAcRAcRRAcLAcLLA",
  "CB5 cVAcSHAcSSAcSAcHA",
  "CBC bSIGN NUKTAcAVAGRAHAbVOWEL SIGN AAdIdIIdUdUUdVOCALIC ReRR",
  "CC6 dEdEEdAI",
  "CCA dOdOOdAUbSIGN VIRAMA",
  "CD5 bLENGTH MARKbAI LENGTH MARK",
  "CDD bLETTER NAKAARA POLLUcFA",
  "CE0 cVOCALIC RRdLLbVOWEL SIGN VOCALIC LeLL",
  "CE6 bDIGIT ZEROcONEcTWOcTHREEcFOURcFIVEcSIXcSEVENcEIGHTcNINE",
  "CF1 bSIGN JIHVAMULIYAcUPADHMANIYA",
  "D00 aMALAYALAM SIGN COMBINING ANUSVARA ABOVEcCANDRABINDUcANUSVARAcVISARGAbLETTER VEDIC ANUSVARAcAcAAcIcIIcUcUU",
  "cVOCALIC RdL",
  "D0E cEcEEcAI",
  "D12 cOcOOcAUcKAcKHAcGAcGHAcNGAcCAcCHAcJAcJHAcNYAcTTAcTTHAcDDAcDDHAcNNAcTAcTHAcDAcDHAcNAcNNNAcPAcPHAcBAcBHAcMAcYA",
  "cRAcRRAcLAcLLAcLLLAcVAcSHAcSSAcSAcHAcTTTAbSIGN VERTICAL BAR VIRAMAcCIRCULAR VIRAMAcAVAGRAHAbVOWEL SIGN AAdIdIIdU",
  "dUUdVOCALIC ReRR",
  "D46 dEdEEdAI",
  "D4A dOdOOdAUbSIGN VIRAMAbLETTER DOT REPHbSIGN PARA",
  "D54 bLETTER CHILLU MdYdLLLbAU LENGTH MARKbFRACTION ONE ONE-HUNDRED-AND-SIXTIETHdFORTIETHcTHREE EIGHTIETHS",
  "cONE TWENTIETHdTENTHcTHREE TWENTIETHScONE FIFTHbLETTER ARCHAIC IIcVOCALIC RRdLLbVOWEL SIGN VOCALIC LeLL",
  "D66 bDIGIT ZEROcONEcTWOcTHREEcFOURcFIVEcSIXcSEVENcEIGHTcNINEbNUMBER TENcONE HUNDREDdTHOUSAND",
  "bFRACTION ONE QUARTERdHALFcTHREE QUARTERScONE SIXTEENTHdEIGHTHcTHREE SIXTEENTHSbDATE MARKbLETTER CHILLU NNdNdRR",
  "dLdLLdK",
  "D81 aSINHALA SIGN CANDRABINDUcANUSVARAYAcVISARGAYA",
  "D85 bLETTER AYANNAcAAYANNAcAEYANNAcAEEYANNAcIYANNAcIIYANNAcUYANNAcUUYANNAcIRUYANNAcIRUUYANNAcILUYANNAcILUUYANNA",
  "cEYANNAcEEYANNAcAIYANNAcOYANNAcOOYANNAcAUYANNA",
  "D9A cALPAPRAANA KAYANNAcMAHAAPRAANA KAYANNAcALPAPRAANA GAYANNAcMAHAAPRAANA GAYANNAcKANTAJA NAASIKYAYA",
  "cSANYAKA GAYANNAcALPAPRAANA CAYANNAcMAHAAPRAANA CAYANNAcALPAPRAANA JAYANNAcMAHAAPRAANA JAYANNA",
  "cTAALUJA NAASIKYAYAdSANYOOGA NAAKSIKYAYAcSANYAKA JAYANNAcALPAPRAANA TTAYANNAcMAHAAPRAANA TTAYANNA",
  "cALPAPRAANA DDAYANNAcMAHAAPRAANA DDAYANNAcMUURDHAJA NAYANNAcSANYAKA DDAYANNAcALPAPRAANA TAYANNA",
  "cMAHAAPRAANA TAYANNAcALPAPRAANA DAYANNAcMAHAAPRAANA DAYANNAcDANTAJA NAYANNA",
  "DB3 cSANYAKA DAYANNAcALPAPRAANA PAYANNAcMAHAAPRAANA PAYANNAcALPAPRAANA BAYANNAcMAHAAPRAANA BAYANNAcMAYANNA",
  "cAMBA BAYANNAcYAYANNAcRAYANNA",
  "DBD cDANTAJA LAYANNA",
  "DC0 cVAYANNAcTAALUJA SAYANNAcMUURDHAJA SAYANNAcDANTAJA SAYANNAcHAYANNAcMUURDHAJA LAYANNAcFAYANNA",
  "DCA bSIGN AL-LAKUNA",
  "DCF bVOWEL SIGN AELA-PILLAdKETTI AEDA-PILLAdDIGA AEDA-PILLAdKETTI IS-PILLAdDIGA IS-PILLAdKETTI PAA-PILLA",
  "DD6 dDIGA PAA-PILLA",
  "DD8 dGAETTA-PILLAdKOMBUVAdDIGA KOMBUVAdKOMBU DEKAdKOMBUVA HAA AELA-PILLAfDIGA AELA-PILLAfGAYANUKITTAdGAYANUKITTA",
  "DE6 bLITH DIGIT ZEROdONEdTWOdTHREEdFOURdFIVEdSIXdSEVENdEIGHTdNINE",
  "DF2 bVOWEL SIGN DIGA GAETTA-PILLAeGAYANUKITTAbPUNCTUATION KUNDDALIYA",
  "E01 aTHAI CHARACTER KO KAIcKHO KHAIdKHUATdKHWAIdKHONdRAKHANGcNGO NGUcCHO CHANdCHINGdCHANGcSO SOcCHO CHOEcYO YING",
  "cDO CHADAcTO PATAKcTHO THANdNANGMONTHOdPHUTHAOcNO NENcDO DEKcTO TAOcTHO THUNGdTHAHANdTHONGcNO NUcBO BAIMAI",
  "cPO PLAcPHO PHUNGcFO FAcPHO PHANcFO FANcPHO SAMPHAOcMO MAcYO YAKcRO RUAcRUcLO LINGcLUcWO WAENcSO SALAdRUSIdSUA",
  "cHO HIPcLO CHULAcO ANGcHO NOKHUKcPAIYANNOIcSARA AcMAI HAN-AKATcSARA AAdAMdIdIIdUEdUEEdUdUUcPHINTHU",
  "E3F bCURRENCY SYMBOL BAHTbCHARACTER SARA EdAEdOdAI MAIMUANeMAIMALAIcLAKKHANGYAOcMAIYAMOKcMAITAIKHUcMAI EKdTHO",
  "dTRIdCHATTAWAcTHANTHAKHATcNIKHAHITcYAMAKKANcFONGMANbDIGIT ZEROcONEcTWOcTHREEcFOURcFIVEcSIXcSEVENcEIGHTcNINE",
  "bCHARACTER ANGKHANKHUcKHOMUT",
  "E81 aLAO LETTER KOcKHO SUNG",
  "E84 dTAM",
  "E86 cPALI GHAcNGOcCOcPALI CHAcSO TAM",
  "E8C cPALI JHAcNYOcPALI NYAdTTAdTTHAdDDAdDDHAdNNAcDOcTOcTHO SUNGdTAMcPALI DHAcNOcBOcPOcPHO SUNGcFO TAMcPHO TAM",
  "cFO SUNGcPALI BHAcMOcYOcLO LING",
  "EA5 dLOOT",
  "EA7 cWOcSANSKRIT SHAdSSAcSO SUNGcHO SUNGcPALI LLAcOcHO TAMbELLIPSISbVOWEL SIGN AdMAI KANdAAdAMdIdIIdYdYYdUdUU",
  "bSIGN PALI VIRAMAbVOWEL SIGN MAI KONbSEMIVOWEL SIGN LOdNYO",
  "EC0 bVOWEL SIGN EdEIdOdAYdAI",
  "EC6 bKO LA",
  "EC8 bTONE MAI EKdTHOdTIdCATAWAbCANCELLATION MARKbNIGGAHITA",
  "ED0 bDIGIT ZEROcONEcTWOcTHREEcFOURcFIVEcSIXcSEVENcEIGHTcNINE",
  "EDC bHO NOcMObLETTER KHMU GOdNYO",
  "F00 aTIBETAN SYLLABLE OMbMARK GTER YIG MGO TRUNCATED Af-UM RNAM BCAD MAgGTER TSHEG MAcINITIAL YIG MGO MDUN MA",
  "cCLOSING YIG MGO SGAB MAcCARET YIG MGO PHUR SHAD MAcYIG MGO TSHEG SHAD MAcSBRUL SHADcBSKUR YIG MGO",
  "cBKA- SHOG YIG MGOcINTERSYLLABIC TSHEGcDELIMITER TSHEG BSTARcSHADcNYIS SHADcTSHEG SHADcNYIS TSHEG SHAD",
  "cRIN CHEN SPUNGS SHADcRGYA GRAM SHADcCARET -DZUD RTAGS ME LONG CANcGTER TSHEGbLOGOTYPE SIGN CHAD RTAGS",
  "dLHAG RTAGSbASTROLOGICAL SIGN SGRA GCAN -CHAR RTAGSd-KHYUD PAdSDONG TSHUGSbSIGN RDEL DKAR GCIGeGNYISeGSUM",
  "dNAG GCIGeGNYISdDKAR RDEL NAGbDIGIT ZEROcONEcTWOcTHREEcFOURcFIVEcSIXcSEVENcEIGHTcNINEcHALF ONEdTWOdTHREEdFOUR",
  "dFIVEdSIXdSEVENdEIGHTdNINEdZERObMARK BSDUS RTAGScNGAS BZUNG NYI ZLAcCARET -DZUD RTAGS BZHI MIG CAN",
  "cNGAS BZUNG SGOR RTAGScCHE MGOcTSA -PHRUcGUG RTAGS GYONeGYAScANG KHANG GYONeGYASbSIGN YAR TSHEScMAR TSHES",
  "bLETTER KAcKHAcGAcGHAcNGAcCAcCHAcJA",
  "F49 cNYAcTTAcTTHAcDDAcDDHAcNNAcTAcTHAcDAcDHAcNAcPAcPHAcBAcBHAcMAcTSAcTSHAcDZAcDZHAcWAcZHAcZAc-AcYAcRAcLAcSHAcSSA",
  "cSAcHAcAcKSSAcFIXED-FORM RAcKKAcRRA",
  "F71 bVOWEL SIGN AAdIdIIdUdUUdVOCALIC ReRReLeLLdEdEEdOdOObSIGN RJES SU NGA ROcRNAM BCADbVOWEL SIGN REVERSED IeII",
  "bSIGN NYI ZLA NAA DAcSNA LDANbMARK HALANTAcPALUTAbSIGN LCI RTAGScYANG RTAGScLCE TSA CANcMCHU CANcGRU CAN RGYINGS",
  "dMED RGYINGScINVERTED MCHU CANbSUBJOINED SIGN LCE TSA CANdMCHU CANdINVERTED MCHU CANcLETTER KAdKHAdGAdGHAdNGAdCA",
  "dCHAdJA",
  "F99 dNYAdTTAdTTHAdDDAdDDHAdNNAdTAdTHAdDAdDHAdNAdPAdPHAdBAdBHAdMAdTSAdTSHAdDZAdDZHAdWAdZHAdZAd-AdYAdRAdLAdSHAdSSA",
  "dSAdHAdAdKSSAdFIXED-FORM WAeYAeRA",
  "FBE bKU RU KHAeBZHI MIG CANbCANTILLATION SIGN HEAVY BEATdLIGHT BEATdCANG TE-UdSBUB -CHALbSYMBOL DRIL BUcRDO RJE",
  "cPADMA GDANcRDO RJE RGYA GRAMcPHUR PAcNOR BUeNYIS -KHYILeGSUM -KHYILeBZHI -KHYIL",
  "FCE bSIGN RDEL NAG RDEL DKAReGSUMbMARK BSKA- SHOG GI MGO RGYANcMNYAM YIG GI MGO RGYANcNYIS TSHEG",
  "cINITIAL BRDA RNYING YIG MGO MDUN MAcCLOSING BRDA RNYING YIG MGO SGAB MAaRIGHT-FACING SVASTI SIGN",
  "aLEFT-FACING SVASTI SIGNaRIGHT-FACING SVASTI SIGN WITH DOTSaLEFT-FACING SVASTI SIGN WITH DOTS",
  "aTIBETAN MARK LEADING MCHAN RTAGScTRAILING MCHAN RTAGS"]

end SpellLint.Text
