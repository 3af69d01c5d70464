/-! # Names of the characters from U+1000 to U+1FFF -/

set_option autoImplicit false

namespace SpellLint.Text

/-- Runs of names in the form that is described at the search for a name. -/
def scriptsNames : List String := [
  "1000 aMYANMAR LETTER KAcKHAcGAcGHAcNGAcCAcCHAcJAcJHAcNYAcNNYAcTTAcTTHAcDDAcDDHAcNNAcTAcTHAcDAcDHAcNAcPAcPHAcBA",
  "cBHAcMAcYAcRAcLAcWAcSAcHAcLLAcAcSHAN AcIcIIcUcUUcEcMON EcOcAUbVOWEL SIGN TALL AAdAAdIdIIdUdUUdEdAIdMON IIeO",
  "dE ABOVEbSIGN ANUSVARAcDOT BELOWcVISARGAcVIRAMAcASATbCONSONANT SIGN MEDIAL YAeRAeWAeHAbLETTER GREAT SA",
  "bDIGIT ZEROcONEcTWOcTHREEcFOURcFIVEcSIXcSEVENcEIGHTcNINEbSIGN LITTLE SECTIONcSECTIONbSYMBOL LOCATIVEcCOMPLETED",
  "cAFOREMENTIONEDcGENITIVEbLETTER SHAcSSAcVOCALIC RdRRdLdLLbVOWEL SIGN VOCALIC ReRReLeLLbLETTER MON NGAdJHAdBBA",
  "dBBEbCONSONANT SIGN MON MEDIAL NAfMAfLAbLETTER SGAW KAREN SHAbVOWEL SIGN SGAW KAREN EU",
  "bTONE MARK SGAW KAREN HATHIfKE PHObLETTER WESTERN PWO KAREN THAfPWAbVOWEL SIGN WESTERN PWO KAREN EUgUE",
  "bSIGN WESTERN PWO KAREN TONE-1++++bLETTER EASTERN PWO KAREN NNAfYWAfGHWAbVOWEL SIGN GEBA KAREN IdKAYAH OEeUeEE",
  "bLETTER SHAN KAdKHAdGAdCAdZAdNYAdDAdNAdPHAdFAdBAdTHAdHAbCONSONANT SIGN SHAN MEDIAL WAbVOWEL SIGN SHAN AAeEfABOVE",
  "eFINAL YbSIGN SHAN TONE-2+dTONE-5+dCOUNCIL TONE-2+eEMPHATIC TONEbLETTER RUMAI PALAUNG FA",
  "bSIGN RUMAI PALAUNG TONE-5bSHAN DIGIT ZEROdONEdTWOdTHREEdFOURdFIVEdSIXdSEVENdEIGHTdNINEbSIGN KHAMTI TONE-1",
  "dTONE-3bVOWEL SIGN AITON AeAIbSYMBOL SHAN ONEdEXCLAMATIONaGEORGIAN CAPITAL LETTER ANdBANdGANdDONdENdVINdZENdTAN",
  "dINdKANdLASdMANdNARdONdPARdZHARdRAEdSANdTARdUNdPHARdKHARdGHANdQARdSHINdCHINdCANdJILdCILdCHARdXANdJHANdHAEdHEdHIE",
  "dWEdHARdHOE",
  "10C7 dYN",
  "10CD dAEN",
  "10D0 bLETTER ANcBANcGANcDONcENcVINcZENcTANcINcKANcLAScMANcNARcONcPARcZHARcRAEcSANcTARcUNcPHARcKHARcGHANcQARcSHIN",
  "cCHINcCANcJILcCILcCHARcXANcJHANcHAEcHEcHIEcWEcHARcHOEcFIcYNcELIFIcTURNED GANcAINbPARAGRAPH SEPARATOR",
  "aMODIFIER LETTER GEORGIAN NARaGEORGIAN LETTER AENcHARD SIGNcLABIAL SIGNaHANGUL CHOSEONG KIYEOKcSSANGKIYEOKcNIEUN",
  "cTIKEUTcSSANGTIKEUTcRIEULcMIEUMcPIEUPcSSANGPIEUPcSIOScSSANGSIOScIEUNGcCIEUCcSSANGCIEUCcCHIEUCHcKHIEUKHcTHIEUTH",
  "cPHIEUPHcHIEUHcNIEUN-KIYEOKcSSANGNIEUNcNIEUN-TIKEUTcNIEUN-PIEUPcTIKEUT-KIYEOKcRIEUL-NIEUNcSSANGRIEULcRIEUL-HIEUH",
  "cKAPYEOUNRIEULcMIEUM-PIEUPcKAPYEOUNMIEUMcPIEUP-KIYEOKcPIEUP-NIEUNcPIEUP-TIKEUTcPIEUP-SIOScPIEUP-SIOS-KIYEOK",
  "cPIEUP-SIOS-TIKEUTcPIEUP-SIOS-PIEUPcPIEUP-SSANGSIOScPIEUP-SIOS-CIEUCcPIEUP-CIEUCcPIEUP-CHIEUCHcPIEUP-THIEUTH",
  "cPIEUP-PHIEUPHcKAPYEOUNPIEUPcKAPYEOUNSSANGPIEUPcSIOS-KIYEOKcSIOS-NIEUNcSIOS-TIKEUTcSIOS-RIEULcSIOS-MIEUM",
  "cSIOS-PIEUPcSIOS-PIEUP-KIYEOKcSIOS-SSANGSIOScSIOS-IEUNGcSIOS-CIEUCcSIOS-CHIEUCHcSIOS-KHIEUKHcSIOS-THIEUTH",
  "cSIOS-PHIEUPHcSIOS-HIEUHcCHITUEUMSIOScCHITUEUMSSANGSIOScCEONGCHIEUMSIOScCEONGCHIEUMSSANGSIOScPANSIOS",
  "cIEUNG-KIYEOKcIEUNG-TIKEUTcIEUNG-MIEUMcIEUNG-PIEUPcIEUNG-SIOScIEUNG-PANSIOScSSANGIEUNGcIEUNG-CIEUCcIEUNG-CHIEUCH",
  "cIEUNG-THIEUTHcIEUNG-PHIEUPHcYESIEUNGcCIEUC-IEUNGcCHITUEUMCIEUCcCHITUEUMSSANGCIEUCcCEONGCHIEUMCIEUC",
  "cCEONGCHIEUMSSANGCIEUCcCHIEUCH-KHIEUKHcCHIEUCH-HIEUHcCHITUEUMCHIEUCHcCEONGCHIEUMCHIEUCHcPHIEUPH-PIEUP",
  "cKAPYEOUNPHIEUPHcSSANGHIEUHcYEORINHIEUHcKIYEOK-TIKEUTcNIEUN-SIOScNIEUN-CIEUCcNIEUN-HIEUHcTIKEUT-RIEULcFILLER",
  "bJUNGSEONG FILLERcAcAEcYAcYAEcEOcEcYEOcYEcOcWAcWAEcOEcYOcUcWEOcWEcWIcYUcEUcYIcIcA-OcA-UcYA-OcYA-YOcEO-OcEO-U",
  "cEO-EUcYEO-OcYEO-UcO-EOcO-EcO-YEcO-OcO-UcYO-YAcYO-YAEcYO-YEOcYO-OcYO-IcU-AcU-AEcU-EO-EUcU-YEcU-UcYU-AcYU-EOcYU-E",
  "cYU-YEOcYU-YEcYU-UcYU-IcEU-UcEU-EUcYI-UcI-AcI-YAcI-OcI-UcI-EUcI-ARAEAcARAEAcARAEA-EOcARAEA-UcARAEA-IcSSANGARAEA",
  "cA-EUcYA-UcYEO-YAcO-YAcO-YAEbJONGSEONG KIYEOKcSSANGKIYEOKcKIYEOK-SIOScNIEUNcNIEUN-CIEUCcNIEUN-HIEUHcTIKEUTcRIEUL",
  "cRIEUL-KIYEOKcRIEUL-MIEUMcRIEUL-PIEUPcRIEUL-SIOScRIEUL-THIEUTHcRIEUL-PHIEUPHcRIEUL-HIEUHcMIEUMcPIEUPcPIEUP-SIOS",
  "cSIOScSSANGSIOScIEUNGcCIEUCcCHIEUCHcKHIEUKHcTHIEUTHcPHIEUPHcHIEUHcKIYEOK-RIEULcKIYEOK-SIOS-KIYEOKcNIEUN-KIYEOK",
  "cNIEUN-TIKEUTcNIEUN-SIOScNIEUN-PANSIOScNIEUN-THIEUTHcTIKEUT-KIYEOKcTIKEUT-RIEULcRIEUL-KIYEOK-SIOScRIEUL-NIEUN",
  "cRIEUL-TIKEUTcRIEUL-TIKEUT-HIEUHcSSANGRIEULcRIEUL-MIEUM-KIYEOKcRIEUL-MIEUM-SIOScRIEUL-PIEUP-SIOS",
  "cRIEUL-PIEUP-HIEUHcRIEUL-KAPYEOUNPIEUPcRIEUL-SSANGSIOScRIEUL-PANSIOScRIEUL-KHIEUKHcRIEUL-YEORINHIEUH",
  "cMIEUM-KIYEOKcMIEUM-RIEULcMIEUM-PIEUPcMIEUM-SIOScMIEUM-SSANGSIOScMIEUM-PANSIOScMIEUM-CHIEUCHcMIEUM-HIEUH",
  "cKAPYEOUNMIEUMcPIEUP-RIEULcPIEUP-PHIEUPHcPIEUP-HIEUHcKAPYEOUNPIEUPcSIOS-KIYEOKcSIOS-TIKEUTcSIOS-RIEULcSIOS-PIEUP",
  "cPANSIOScIEUNG-KIYEOKcIEUNG-SSANGKIYEOKcSSANGIEUNGcIEUNG-KHIEUKHcYESIEUNGcYESIEUNG-SIOScYESIEUNG-PANSIOS",
  "cPHIEUPH-PIEUPcKAPYEOUNPHIEUPHcHIEUH-NIEUNcHIEUH-RIEULcHIEUH-MIEUMcHIEUH-PIEUPcYEORINHIEUHcKIYEOK-NIEUN",
  "cKIYEOK-PIEUPcKIYEOK-CHIEUCHcKIYEOK-KHIEUKHcKIYEOK-HIEUHcSSANGNIEUNaETHIOPIC SYLLABLE HAcHUcHIcHAAcHEEcHEcHOcHOA",
  "cLAcLUcLIcLAAcLEEcLEcLOcLWAcHHAcHHUcHHIcHHAAcHHEEcHHEcHHOcHHWAcMAcMUcMIcMAAcMEEcMEcMOcMWAcSZAcSZUcSZIcSZAAcSZEE",
  "cSZEcSZOcSZWAcRAcRUcRIcRAAcREEcREcROcRWAcSAcSUcSIcSAAcSEEcSEcSOcSWAcSHAcSHUcSHIcSHAAcSHEEcSHEcSHOcSHWAcQAcQUcQI",
  "cQAAcQEEcQEcQOcQOAcQWA",
  "124A cQWIcQWAAcQWEEcQWE",
  "1250 cQHAcQHUcQHIcQHAAcQHEEcQHEcQHO",
  "1258 cQHWA",
  "125A cQHWIcQHWAAcQHWEEcQHWE",
  "1260 cBAcBUcBIcBAAcBEEcBEcBOcBWAcVAcVUcVIcVAAcVEEcVEcVOcVWAcTAcTUcTIcTAAcTEEcTEcTOcTWAcCAcCUcCIcCAAcCEEcCEcCO",
  "cCWAcXAcXUcXIcXAAcXEEcXEcXOcXOAcXWA",
  "128A cXWIcXWAAcXWEEcXWE",
  "1290 cNAcNUcNIcNAAcNEEcNEcNOcNWAcNYAcNYUcNYIcNYAAcNYEEcNYEcNYOcNYWAcGLOTTAL AdUdIdAAdEEdEdOdWAcKAcKUcKIcKAAcKEE",
  "cKEcKOcKOAcKWA",
  "12B2 cKWIcKWAAcKWEEcKWE",
  "12B8 cKXAcKXUcKXIcKXAAcKXEEcKXEcKXO",
  "12C0 cKXWA",
  "12C2 cKXWIcKXWAAcKXWEEcKXWE",
  "12C8 cWAcWUcWIcWAAcWEEcWEcWOcWOAcPHARYNGEAL AdUdIdAAdEEdEdO",
  "12D8 cZAcZUcZIcZAAcZEEcZEcZOcZWAcZHAcZHUcZHIcZHAAcZHEEcZHEcZHOcZHWAcYAcYUcYIcYAAcYEEcYEcYOcYOAcDAcDUcDIcDAAcDEE",
  "cDEcDOcDWAcDDAcDDUcDDIcDDAAcDDEEcDDEcDDOcDDWAcJAcJUcJIcJAAcJEEcJEcJOcJWAcGAcGUcGIcGAAcGEEcGEcGOcGOAcGWA",
  "1312 cGWIcGWAAcGWEEcGWE",
  "1318 cGGAcGGUcGGIcGGAAcGGEEcGGEcGGOcGGWAAcTHAcTHUcTHIcTHAAcTHEEcTHEcTHOcTHWAcCHAcCHUcCHIcCHAAcCHEEcCHEcCHOcCHWA",
  "cPHAcPHUcPHIcPHAAcPHEEcPHEcPHOcPHWAcTSAcTSUcTSIcTSAAcTSEEcTSEcTSOcTSWAcTZAcTZUcTZIcTZAAcTZEEcTZEcTZOcTZOAcFAcFU",
  "cFIcFAAcFEEcFEcFOcFWAcPAcPUcPIcPAAcPEEcPEcPOcPWAcRYAcMYAcFYA",
  "135D bCOMBINING GEMINATION AND VOWEL LENGTH MARKcVOWEL LENGTH MARKcGEMINATION MARKbSECTION MARKbWORDSPACE",
  "bFULL STOPbCOMMAbSEMICOLONbCOLONbPREFACE COLONbQUESTION MARKbPARAGRAPH SEPARATORbDIGIT ONEcTWOcTHREEcFOURcFIVE",
  "cSIXcSEVENcEIGHTcNINEbNUMBER TENcTWENTYcTHIRTYcFORTYcFIFTYcSIXTYcSEVENTYcEIGHTYcNINETYcHUNDREDcTEN THOUSAND",
  "1380 bSYLLABLE SEBATBEIT MWAcMWIcMWEEcMWEcSEBATBEIT BWAcBWIcBWEEcBWEcSEBATBEIT FWAcFWIcFWEEcFWEcSEBATBEIT PWA",
  "cPWIcPWEEcPWEbTONAL MARK YIZETdDERETdRIKRIKdSHORT RIKRIKdDIFATdKENATdCHIRETdHIDETdDERET-HIDETdKURT",
  "13A0 aCHEROKEE LETTER AcEcIcOcUcVcGAcKAcGEcGIcGOcGUcGVcHAcHEcHIcHOcHUcHVcLAcLEcLIcLOcLUcLVcMAcMEcMIcMOcMUcNAcHNA",
  "cNAHcNEcNIcNOcNUcNVcQUAcQUEcQUIcQUOcQUUcQUVcSAcScSEcSIcSOcSUcSVcDAcTAcDEcTEcDIcTIcDOcDUcDVcDLAcTLAcTLEcTLIcTLO",
  "cTLUcTLVcTSAcTSEcTSIcTSOcTSUcTSVcWAcWEcWIcWOcWUcWVcYAcYEcYIcYOcYUcYVcMV",
  "13F8 bSMALL LETTER YEdYIdYOdYUdYVdMV",
  "1400 aCANADIAN SYLLABICS HYPHENcEcAAIcIcIIcOcOOcY-CREE OOcCARRIER EEdIcAcAAcWEcWEST-CREE WEcWIcWEST-CREE WIcWII",
  "cWEST-CREE WIIcWOcWEST-CREE WOcWOOcWEST-CREE WOOcNASKAPI WOOcWAcWEST-CREE WAcWAAcWEST-CREE WAAcNASKAPI WAAcAI",
  "cY-CREE WcGLOTTAL STOPcFINAL ACUTEdGRAVEdBOTTOM HALF RINGdTOP HALF RINGdRIGHT HALF RINGdRINGdDOUBLE ACUTE",
  "eSHORT VERTICAL STROKESdMIDDLE DOTdSHORT HORIZONTAL STROKEdPLUSdDOWN TACKcENcINcONcANcPEcPAAIcPIcPIIcPOcPOO",
  "cY-CREE POOcCARRIER HEEdHIcPAcPAAcPWEcWEST-CREE PWEcPWIcWEST-CREE PWIcPWIIcWEST-CREE PWIIcPWOcWEST-CREE PWOcPWOO",
  "cWEST-CREE PWOOcPWAcWEST-CREE PWAcPWAAcWEST-CREE PWAAcY-CREE PWAAcPcWEST-CREE PcCARRIER HcTEcTAAIcTIcTIIcTOcTOO",
  "cY-CREE TOOcCARRIER DEEdDIcTAcTAAcTWEcWEST-CREE TWEcTWIcWEST-CREE TWIcTWIIcWEST-CREE TWIIcTWOcWEST-CREE TWOcTWOO",
  "cWEST-CREE TWOOcTWAcWEST-CREE TWAcTWAAcWEST-CREE TWAAcNASKAPI TWAAcTcTTEcTTIcTTOcTTAcKEcKAAIcKIcKIIcKOcKOO",
  "cY-CREE KOOcKAcKAAcKWEcWEST-CREE KWEcKWIcWEST-CREE KWIcKWIIcWEST-CREE KWIIcKWOcWEST-CREE KWOcKWOOcWEST-CREE KWOO",
  "cKWAcWEST-CREE KWAcKWAAcWEST-CREE KWAAcNASKAPI KWAAcKcKWcSOUTH-SLAVEY KEHdKIHdKOHdKAHcCEcCAAIcCIcCIIcCOcCOO",
  "cY-CREE COOcCAcCAAcCWEcWEST-CREE CWEcCWIcWEST-CREE CWIcCWIIcWEST-CREE CWIIcCWOcWEST-CREE CWOcCWOOcWEST-CREE CWOO",
  "cCWAcWEST-CREE CWAcCWAAcWEST-CREE CWAAcNASKAPI CWAAcCcSAYISI THcMEcMAAIcMIcMIIcMOcMOOcY-CREE MOOcMAcMAAcMWE",
  "cWEST-CREE MWEcMWIcWEST-CREE MWIcMWIIcWEST-CREE MWIIcMWOcWEST-CREE MWOcMWOOcWEST-CREE MWOOcMWAcWEST-CREE MWA",
  "cMWAAcWEST-CREE MWAAcNASKAPI MWAAcMcWEST-CREE McMHcATHAPASCAN McSAYISI McNEcNAAIcNIcNIIcNOcNOOcY-CREE NOOcNAcNAA",
  "cNWEcWEST-CREE NWEcNWAcWEST-CREE NWAcNWAAcWEST-CREE NWAAcNASKAPI NWAAcNcCARRIER NGcNHcLEcLAAIcLIcLIIcLOcLOO",
  "cY-CREE LOOcLAcLAAcLWEcWEST-CREE LWEcLWIcWEST-CREE LWIcLWIIcWEST-CREE LWIIcLWOcWEST-CREE LWOcLWOOcWEST-CREE LWOO",
  "cLWAcWEST-CREE LWAcLWAAcWEST-CREE LWAAcLcWEST-CREE LcMEDIAL LcSEcSAAIcSIcSIIcSOcSOOcY-CREE SOOcSAcSAAcSWE",
  "cWEST-CREE SWEcSWIcWEST-CREE SWIcSWIIcWEST-CREE SWIIcSWOcWEST-CREE SWOcSWOOcWEST-CREE SWOOcSWAcWEST-CREE SWA",
  "cSWAAcWEST-CREE SWAAcNASKAPI SWAAcScATHAPASCAN ScSWcBLACKFOOT ScMOOSE-CREE SKcNASKAPI SKWdS-WdSPWAdSTWAdSKWA",
  "dSCWAcSHEcSHIcSHIIcSHOcSHOOcSHAcSHAAcSHWEcWEST-CREE SHWEcSHWIcWEST-CREE SHWIcSHWIIcWEST-CREE SHWIIcSHWO",
  "cWEST-CREE SHWOcSHWOOcWEST-CREE SHWOOcSHWAcWEST-CREE SHWAcSHWAAcWEST-CREE SHWAAcSHcYEcYAAIcYIcYIIcYOcYOO",
  "cY-CREE YOOcYAcYAAcYWEcWEST-CREE YWEcYWIcWEST-CREE YWIcYWIIcWEST-CREE YWIIcYWOcWEST-CREE YWOcYWOOcWEST-CREE YWOO",
  "cYWAcWEST-CREE YWAcYWAAcWEST-CREE YWAAcNASKAPI YWAAcYcBIBLE-CREE YcWEST-CREE YcSAYISI YIcREcR-CREE RE",
  "cWEST-CREE LEcRAAIcRIcRIIcROcROOcWEST-CREE LOcRAcRAAcWEST-CREE LAcRWAAcWEST-CREE RWAAcRcWEST-CREE RcMEDIAL RcFE",
  "cFAAIcFIcFIIcFOcFOOcFAcFAAcFWAAcWEST-CREE FWAAcFcTHEcN-CREE THEcTHIcN-CREE THIcTHIIcN-CREE THIIcTHOcTHOOcTHA",
  "cTHAAcTHWAAcWEST-CREE THWAAcTHcTTHEcTTHIcTTHOcTTHAcTTHcTYEcTYIcTYOcTYAcNUNAVIK HEdHIdHIIdHOdHOOdHAdHAAdH",
  "cNUNAVUT HcHKcQAAIcQIcQIIcQOcQOOcQAcQAAcQcTLHEcTLHIcTLHOcTLHAcWEST-CREE REdRIdROdRAcNGAAIcNGIcNGIIcNGOcNGOOcNGA",
  "cNGAAcNGcNNGcSAYISI SHEdSHIdSHOdSHAcWOODS-CREE THEdTHIdTHOdTHAdTHcLHIcLHIIcLHOcLHOOcLHAcLHAAcLHcTH-CREE THEdTHI",
  "dTHIIdTHOdTHOOdTHAdTHAAdTHcAIVILIK BcBLACKFOOT EdIdOdAdWEdWIdWOdWAdNEdNIdNOdNAdKEdKIdKOdKAcSAYISI HEdHIdHOdHA",
  "cCARRIER GHUdGHOdGHEdGHEEdGHIdGHAdRUdROdREdREEdRIdRAdWUdWOdWEdWEEdWIdWAdHWUdHWOdHWEdHWEEdHWIdHWAdTHUdTHOdTHE",
  "dTHEEdTHIdTHAdTTUdTTOdTTEdTTEEdTTIdTTAdPUdPOdPEdPEEdPIdPAdPdGUdGOdGEdGEEdGIdGAdKHUdKHOdKHEdKHEEdKHIdKHAdKKUdKKO",
  "dKKEdKKEEdKKIdKKAdKKdNUdNOdNEdNEEdNIdNAdMUdMOdMEdMEEdMIdMAdYUdYOdYEdYEEdYIdYAdJUcSAYISI JUcCARRIER JOdJEdJEEdJI",
  "cSAYISI JIcCARRIER JAdJJUdJJOdJJEdJJEEdJJIdJJAdLUdLOdLEdLEEdLIdLAdDLUdDLOdDLEdDLEEdDLIdDLAdLHUdLHOdLHEdLHEEdLHI",
  "dLHAdTLHUdTLHOdTLHEdTLHEEdTLHIdTLHAdTLUdTLOdTLEdTLEEdTLIdTLAdZUdZOdZEdZEEdZIdZAdZdINITIAL ZdDZUdDZOdDZEdDZEEdDZI",
  "dDZAdSUdSOdSEdSEEdSIdSAdSHUdSHOdSHEdSHEEdSHIdSHAdSHdTSUdTSOdTSEdTSEEdTSIdTSAdCHUdCHOdCHEdCHEEdCHIdCHAdTTSUdTTSO",
  "dTTSEdTTSEEdTTSIdTTSAcCHI SIGNcFULL STOPcQAIcNGAIcNNGIcNNGIIcNNGOcNNGOOcNNGAcNNGAAcWOODS-CREE THWEEdTHWIdTHWII",
  "dTHWOdTHWOOdTHWAdTHWAAdFINAL THcBLACKFOOT WaOGHAM SPACE MARKbLETTER BEITHcLUIScFEARNcSAILcNIONcUATHcDAIRcTINNE",
  "cCOLLcCEIRTcMUINcGORTcNGEADALcSTRAIFcRUIScAILMcONNcURcEADHADHcIODHADHcEABHADHcORcUILLEANNcIFINcEAMHANCHOLLcPEITH",
  "bFEATHER MARKbREVERSED FEATHER MARK",
  "16A0 aRUNIC LETTER FEHU FEOH FE FcVcURUZ UR UcYRcYcWcTHURISAZ THURS THORNcETHcANSUZ AcOS OcAC AcAESC",
  "cLONG-BRANCH-OSS OcSHORT-TWIG-OSS OcOcOEcONcRAIDO RAD REID RcKAUNAcCENcKAUN KcGcENGcGEBO GYFU GcGARcWUNJO WYNN W",
  "cHAGLAZ HcHAEGL HcLONG-BRANCH-HAGALL HcSHORT-TWIG-HAGALL HcNAUDIZ NYD NAUD NcSHORT-TWIG-NAUD NcDOTTED-N",
  "cISAZ IS ISS IcEcJERAN JcGERcLONG-BRANCH-AR AEcSHORT-TWIG-AR AcIWAZ EOHcPERTHO PEORTH PcALGIZ EOLHXcSOWILO S",
  "cSIGEL LONG-BRANCH-SOL ScSHORT-TWIG-SOL ScCcZcTIWAZ TIR TYR TcSHORT-TWIG-TYR TcDcBERKANAN BEORC BJARKAN B",
  "cSHORT-TWIG-BJARKAN BcDOTTED-PcOPEN-PcEHWAZ EH EcMANNAZ MAN McLONG-BRANCH-MADR McSHORT-TWIG-MADR M",
  "cLAUKAZ LAGU LOGR LcDOTTED-LcINGWAZcINGcDAGAZ DAEG DcOTHALAN ETHEL OcEARcIORcCWEORTHcCALCcCEALCcSTAN",
  "cLONG-BRANCH-YRcSHORT-TWIG-YRcICELANDIC-YRcQcXbSINGLE PUNCTUATIONbMULTIPLE PUNCTUATIONbCROSS PUNCTUATION",
  "bARLAUG SYMBOLbTVIMADUR SYMBOLbBELGTHOR SYMBOLbLETTER KcSHcOOcFRANKS CASKET OSeISeEHeACeAESC",
  "1700 aTAGALOG LETTER AcIcUcKAcGAcNGAcTAcDAcNAcPAcBAcMAcYAcRAcLAcWAcSAcHAbVOWEL SIGN IdUbSIGN VIRAMAcPAMUDPOD",
  "171F bLETTER ARCHAIC RAaHANUNOO LETTER AcIcUcKAcGAcNGAcTAcDAcNAcPAcBAcMAcYAcRAcLAcWAcSAcHAbVOWEL SIGN IdU",
  "bSIGN PAMUDPODaPHILIPPINE SINGLE PUNCTUATIONbDOUBLE PUNCTUATION",
  "1740 aBUHID LETTER AcIcUcKAcGAcNGAcTAcDAcNAcPAcBAcMAcYAcRAcLAcWAcSAcHAbVOWEL SIGN IdU",
  "1760 aTAGBANWA LETTER AcIcUcKAcGAcNGAcTAcDAcNAcPAcBAcMAcYA",
  "176E cLAcWAcSA",
  "1772 bVOWEL SIGN IdU",
  "1780 aKHMER LETTER KAcKHAcKOcKHOcNGOcCAcCHAcCOcCHOcNYOcDAcTTHAcDOcTTHOcNNOcTAcTHAcTOcTHOcNOcBAcPHAcPOcPHOcMOcYO",
  "cROcLOcVOcSHAcSSOcSAcHAcLAcQAbINDEPENDENT VOWEL QAQdQAAdQIdQIIdQUdQUKdQUUdQUUVdRYdRYYdLYdLYYdQEdQAIdQOO TYPE ONE",
  "fTWOdQAUbVOWEL INHERENT AQdAAcSIGN AAdIdIIdYdYYdUdUUdUAdOEdYAdIEdEdAEdAIdOOdAUbSIGN NIKAHITcREAHMUK",
  "cYUUKALEAPINTUcMUUSIKATOANcTRIISAPcBANTOCcROBATcTOANDAKHIATcKAKABATcAHSDAcSAMYOK SANNYAcVIRIAMcCOENGcBATHAMASAT",
  "cKHANcBARIYOOSANcCAMNUC PII KUUHcLEK TOOcBEYYALcPHNAEK MUANcKOOMUUTbCURRENCY SYMBOL RIELbSIGN AVAKRAHASANYA",
  "cATTHACAN",
  "17E0 bDIGIT ZEROcONEcTWOcTHREEcFOURcFIVEcSIXcSEVENcEIGHTcNINE",
  "17F0 bSYMBOL LEK ATTAK SONeMUOYePIIeBEIeBUONePRAMePRAM-MUOYePRAM-PIIePRAM-BEIePRAM-BUON",
  "1800 aMONGOLIAN BIRGAbELLIPSISbCOMMAbFULL STOPbCOLONbFOUR DOTSbTODO SOFT HYPHENbSIBE SYLLABLE BOUNDARY MARKER",
  "bMANCHU COMMAcFULL STOPbNIRUGUbFREE VARIATION SELECTOR ONEeTWOeTHREEbVOWEL SEPARATOR",
  "bFREE VARIATION SELECTOR FOURbDIGIT ZEROcONEcTWOcTHREEcFOURcFIVEcSIXcSEVENcEIGHTcNINE",
  "1820 bLETTER AcEcIcOcUcOEcUEcEEcNAcANGcBAcPAcQAcGAcMAcLAcSAcSHAcTAcDAcCHAcJAcYAcRAcWAcFAcKAcKHAcTSAcZAcHAAcZRA",
  "cLHAcZHIcCHIcTODO LONG VOWEL SIGNdEdIdOdUdOEdUEdANGdBAdPAdQAdGAdMAdTAdDAdCHAdJAdTSAdYAdWAdKAdGAAdHAAdJIAdNIAdDZA",
  "cSIBE EdIdIYdUEdUdANGdKAdGAdHAdPAdSHAdTAdDAdJAdFAdGAAdHAAdTSAdZAdRAAdCHAdZHAcMANCHU IdKAdRAdFAdZHA",
  "cCHA WITH TWO DOTS",
  "1880 cALI GALI ANUSVARA ONEeVISARGA ONEeDAMARUeUBADAMAeINVERTED UBADAMAeBALUDAeTHREE BALUDAeAeIeKAeNGAeCAeTTA",
  "eTTHAeDDAeNNAeTAeDAePAePHAeSSAeZHAeZAeAHcTODO ALI GALI TAfZHAcMANCHU ALI GALI GHAfNGAfCAfJHAfTTAfDDHAfTAfDHAfSSA",
  "fCYAfZHAfZAcALI GALI HALF UfYAcMANCHU ALI GALI BHAcALI GALI DAGALGAcMANCHU ALI GALI LHA",
  "18B0 aCANADIAN SYLLABICS OYcAYcAAYcWAYcPOYcPAYcPWOYcTAYcKAYcKWAYcMAYcNOYcNAYcLAYcSOYcSAYcSHOYcSHAYcSHWOYcYOYcYAY",
  "cRAYcNWIcOJIBWAY NWIcNWIIcOJIBWAY NWIIcNWOcOJIBWAY NWOcNWOOcOJIBWAY NWOOcRWEEcRWIcRWIIcRWOcRWOOcRWAcOJIBWAY PdT",
  "dKdCdMdNdSdSHcEASTERN WcWESTERN WcFINAL SMALL RINGdRAISED DOTcR-CREE RWEcWEST-CREE LOOdLAAcTHWEcTHWAcTTHWEcTTHOO",
  "cTTHAAcTLHWEcTLHOOcSAYISI SHWEdSHOOdHOOcCARRIER GWUdDENE GEEdGAAdGWAcSAYISI JUUcCARRIER JWAcBEAVER DENE LeR",
  "cCARRIER DENTAL S",
  "1900 aLIMBU VOWEL-CARRIER LETTERbLETTER KAcKHAcGAcGHAcNGAcCAcCHAcJAcJHAcYANcTAcTHAcDAcDHAcNAcPAcPHAcBAcBHAcMAcYA",
  "cRAcLAcWAcSHAcSSAcSAcHAcGYANcTRA",
  "1920 bVOWEL SIGN AdIdUdEEdAIdOOdAUdEdObSUBJOINED LETTER YAdRAdWA",
  "1930 bSMALL LETTER KAdNGAdANUSVARAdTAdNAdPAdMAdRAdLAbSIGN MUKPHRENGcKEMPHRENGcSA-I",
  "1940 cLOO",
  "1944 bEXCLAMATION MARKbQUESTION MARKbDIGIT ZEROcONEcTWOcTHREEcFOURcFIVEcSIXcSEVENcEIGHTcNINEaTAI LE LETTER KAdXA",
  "dNGAdTSAdSAdYAdTAdTHAdLAdPAdPHAdMAdFAdVAdHAdQAdKHAdTSHAdNAdAdIdEEdEHdUdOOdOdUEdEdAUEdAI",
  "1970 dTONE-2++++",
  "1980 aNEW TAI LUE LETTER HIGH QAeLOW QAeHIGH KAfXAfNGAeLOW KAfXAfNGAeHIGH TSAfSAfYAeLOW TSAfSAfYAeHIGH TAfTHAfNA",
  "eLOW TAfTHAfNAeHIGH PAfPHAfMAeLOW PAfPHAfMAeHIGH FAfVAfLAeLOW FAfVAfLAeHIGH HAfDAfBAeLOW HAfDAfBAeHIGH KVAfXVA",
  "eLOW KVAfXVAeHIGH SUAeLOW SUA",
  "19B0 dVOWEL SIGN VOWEL SHORTENERfAAfIIfUfUUfEfAEfOfOAfUEfAYfAAYfUYfOYfOAYfUEYfIYdLETTER FINAL VfNGfNfMfKfDfB",
  "dTONE MARK-1+",
  "19D0 dDIGIT ZEROeONEeTWOeTHREEeFOUReFIVEeSIXeSEVENeEIGHTeNINEdTHAM DIGIT ONE",
  "19DE dSIGN LAEeLAEVaKHMER SYMBOL PATHAMASATcMUOY KOETcPII KOETcBEI KOETcBUON KOETcPRAM KOETcPRAM-MUOY KOET",
  "cPRAM-PII KOETcPRAM-BEI KOETcPRAM-BUON KOETcDAP KOETcDAP-MUOY KOETcDAP-PII KOETcDAP-BEI KOETcDAP-BUON KOET",
  "cDAP-PRAM KOETcTUTEYASATcMUOY ROCcPII ROCcBEI ROCcBUON ROCcPRAM ROCcPRAM-MUOY ROCcPRAM-PII ROCcPRAM-BEI ROC",
  "cPRAM-BUON ROCcDAP ROCcDAP-MUOY ROCcDAP-PII ROCcDAP-BEI ROCcDAP-BUON ROCcDAP-PRAM ROCaBUGINESE LETTER KAcGAcNGA",
  "cNGKAcPAcBAcMAcMPAcTAcDAcNAcNRAcCAcJAcNYAcNYCAcYAcRAcLAcVAcSAcAcHAbVOWEL SIGN IdUdEdOdAE",
  "1A1E bPALLAWAbEND OF SECTIONaTAI THAM LETTER HIGH KAeKHAeKXAdLOW KAeKXAeKHAdNGAdHIGH CAeCHAdLOW CAeSAeCHAdNYA",
  "dRATAdHIGH RATHAdDAdLOW RATHAdRANAdHIGH TAeTHAdLOW TAeTHAdNAdBAdHIGH PAePHAeFAdLOW PAeFAePHAdMAdLOW YAdHIGH YA",
  "dRAdRUEdLAdLUEdWAdHIGH SHAeSSAeSAeHAdLLAdAdLOW HAdIdIIdUdUUdEEdOOdLAEdGREAT SAcCONSONANT SIGN MEDIAL RAfLA",
  "eLA TANG LAIcSIGN MAI KANG LAIcCONSONANT SIGN FINAL NGAeLOW PAeHIGH RATHA OR LOW PAeMAeBAeSA",
  "1A60 cSIGN SAKOTcVOWEL SIGN AeMAI SATeAAeTALL AAeIeIIeUEeUUEeUeUUeOeOA BELOWeOYeEeAEeOOeAIeTHAM AIeOA ABOVE",
  "cSIGN MAI KANGdTONE-1+dKHUEN TONE-3++dRA HAAMdMAI SAMdKHUEN-LUE KARAN",
  "1A7F cCOMBINING CRYPTOGRAMMIC DOTcHORA DIGIT ZEROeONEeTWOeTHREEeFOUReFIVEeSIXeSEVENeEIGHTeNINE",
  "1A90 cTHAM DIGIT ZEROeONEeTWOeTHREEeFOUReFIVEeSIXeSEVENeEIGHTeNINE",
  "1AA0 cSIGN WIANGdWIANGWAAKdSAWANdKEOWdHOYdDOKMAIdREVERSED ROTATED RANAdMAI YAMOKdKAANdKAANKUUdSATKAANdSATKAANKUU",
  "dHANGdCAANG",
  "1AB0 aCOMBINING DOUBLED CIRCUMFLEX ACCENTbDIAERESIS-RINGbINFINITYbDOWNWARDS ARROWbTRIPLE DOTbX-X BELOW",
  "bWIGGLY LINE BELOWbOPEN MARK BELOWbDOUBLE OPEN MARK BELOWbLIGHT CENTRALIZATION STROKE BELOW",
  "bSTRONG CENTRALIZATION STROKE BELOWbPARENTHESES ABOVEbDOUBLE PARENTHESES ABOVEbPARENTHESES BELOWcOVERLAY",
  "bLATIN SMALL LETTER W BELOWeTURNED W BELOWbLEFT PARENTHESIS ABOVE LEFTbRIGHT PARENTHESIS ABOVE RIGHT",
  "bLEFT PARENTHESIS BELOW LEFTbRIGHT PARENTHESIS BELOW RIGHTbSQUARE BRACKETS ABOVEbNUMBER SIGN ABOVE",
  "bINVERTED DOUBLE ARCH ABOVEbPLUS SIGN ABOVEbDOUBLE PLUS SIGN ABOVEeBELOWbTRIPLE ACUTE ACCENT",
  "bLATIN SMALL LETTER INSULAR GfRfT",
  "1B00 aBALINESE SIGN ULU RICEMdCANDRAcCECEKcSURANGcBISAHbLETTER AKARAdTEDUNGcIKARAdTEDUNGcUKARAdTEDUNGcRA REPA",
  "eTEDUNGcLA LENGAeTEDUNGcEKARAcAIKARAcOKARAdTEDUNGcKAdMAHAPRANAcGAdGORAcNGAcCAdLACAcJAdJERAcNYAcTA LATIK",
  "dMURDA MAHAPRANAcDA MURDA ALPAPRANAeMAHAPRANAcNA RAMBATcTAdTAWAcDAdMADUcNAcPAdKAPALcBAdKEMBANGcMAcYAcRAcLAcWA",
  "cSA SAGAdSAPAcSAcHAbSIGN REREKANbVOWEL SIGN TEDUNGdULUeSARIdSUKUeILUTdRA REPAfTEDUNGdLA LENGAfTEDUNGdTALINGeREPA",
  "eTEDUNGeREPA TEDUNGdPEPETeTEDUNGbADEG ADEGbLETTER KAF SASAKcKHOT SASAKcTZIR SASAKcEF SASAKcVE SASAKcZAL SASAK",
  "cASYURA SASAKcARCHAIC JNYA",
  "1B50 bDIGIT ZEROcONEcTWOcTHREEcFOURcFIVEcSIXcSEVENcEIGHTcNINEbPANTIbPAMADAbWINDUbCARIK PAMUNGKAHcSIKIcPAREREN",
  "bPAMENENGbMUSICAL SYMBOL DONGdDENGdDUNGdDANGeSURANGdDINGdDAENGdDEUNGdDAINGdDANG GEDEdCOMBINING TEGEHeENDEP",
  "eKEMPULeKEMPLIeJEGOGANeKEMPUL WITH JEGOGANeKEMPLI WITH JEGOGANeBENDEeGONGdRIGHT-HAND OPEN DUGfDAGeCLOSED TUKfTAK",
  "dLEFT-HAND OPEN PANGfPUNGeCLOSED PLAKfPLUKeOPEN PINGbPANTI LANTANGbPAMADA LANTANG",
  "1B80 aSUNDANESE SIGN PANYECEKcPANGLAYARcPANGWISADbLETTER AcIcUcAEcOcEcEUcKAcQAcGAcNGAcCAcJAcZAcNYAcTAcDAcNAcPA",
  "cFAcVAcBAcMAcYAcRAcLAcWAcSAcXAcHAbCONSONANT SIGN PAMINGKALdPANYAKRAdPANYIKUbVOWEL SIGN PANGHULUdPANYUKU",
  "dPANAELAENGdPANOLONGdPAMEPETdPANEULEUNGbSIGN PAMAAEHcVIRAMAbCONSONANT SIGN PASANGAN MAeWAbLETTER KHAcSYA",
  "bDIGIT ZEROcONEcTWOcTHREEcFOURcFIVEcSIXcSEVENcEIGHTcNINEbAVAGRAHAbLETTER REUcLEUcBHAcFINAL KdMaBATAK LETTER A",
  "cSIMALUNGUN AcHAcSIMALUNGUN HAcMANDAILING HAcBAcKARO BAcPAcSIMALUNGUN PAcNAcMANDAILING NAcWAcSIMALUNGUN WA",
  "cPAKPAK WAcGAcSIMALUNGUN GAcJAcDAcRAcSIMALUNGUN RAcMAcSIMALUNGUN MAcSOUTHERN TAcNORTHERN TAcSAcSIMALUNGUN SA",
  "cMANDAILING SAcYAcSIMALUNGUN YAcNGAcLAcSIMALUNGUN LAcNYAcCAcNDAcMBAcIcUbSIGN TOMPIbVOWEL SIGN EdPAKPAK EdEEdI",
  "dKARO IdOdKARO OdUeFOR SIMALUNGUN SAbCONSONANT SIGN NGdHbPANGOLATbPANONGONAN",
  "1BFC bSYMBOL BINDU NA METEKdPINARBORASdJUDULdPANGOLATaLEPCHA LETTER KAcKLAcKHAcGAcGLAcNGAcCAcCHAcJAcNYAcTAcTHA",
  "cDAcNAcPAcPLAcPHAcFAcFLAcBAcBLAcMAcMLAcTSAcTSHAcDZAcYAcRAcLAcHAcHLAcVAcSAcSHAcWAcAbSUBJOINED LETTER YAdRA",
  "bVOWEL SIGN AAdIdOdOOdUdUUdEbCONSONANT SIGN KdMdLdNdPdRdTdNYIN-DOdKANGbSIGN RANcNUKTA",
  "1C3B bPUNCTUATION TA-ROLcNYET THYOOM TA-ROLcCER-WAcTSHOOK CER-WAcTSHOOKbDIGIT ZEROcONEcTWOcTHREEcFOURcFIVEcSIX",
  "cSEVENcEIGHTcNINE",
  "1C4D bLETTER TTAcTTHAcDDAaOL CHIKI DIGIT ZEROdONEdTWOdTHREEdFOURdFIVEdSIXdSEVENdEIGHTdNINEcLETTER LAdATdAGdANG",
  "dALdLAAdAAKdAAJdAAMdAAWdLIdISdIHdINYdIRdLUdUCdUDdUNNdUYdLEdEPdEDDdENdERRdLOdOTTdOBdOVdOHcMU TTUDDAG",
  "cGAAHLAA TTUDDAAGcMU-GAAHLAA TTUDDAAGcRELAAcPHAARKAAcAHADcPUNCTUATION MUCAADdDOUBLE MUCAAD",
  "aCYRILLIC SMALL LETTER ROUNDED VEdLONG-LEGGED DEdNARROW OdWIDE ESdTALL TEdTHREE-LEGGED TEdTALL HARD SIGNeYAT",
  "dUNBLENDED UK",
  "1C90 aGEORGIAN MTAVRULI CAPITAL LETTER ANeBANeGANeDONeENeVINeZENeTANeINeKANeLASeMANeNAReONePAReZHAReRAEeSANeTAR",
  "eUNePHAReKHAReGHANeQAReSHINeCHINeCANeJILeCILeCHAReXANeJHANeHAEeHEeHIEeWEeHAReHOEeFIeYNeELIFIeTURNED GANeAIN",
  "1CBD eAENeHARD SIGNeLABIAL SIGNaSUNDANESE PUNCTUATION BINDU SURYAdPANGLONGdPURNAMAdCAKRAdLEU SATANGAdKA SATANGA",
  "dDA SATANGAdBA SATANGA",
  "1CD0 aVEDIC TONE KARSHANAcSHARAcPRENKHAbSIGN NIHSHVASAcYAJURVEDIC MIDLINE SVARITA",
  "bTONE YAJURVEDIC AGGRAVATED INDEPENDENT SVARITAdINDEPENDENT SVARITAdKATHAKA INDEPENDENT SVARITAcCANDRA BELOW",
  "cYAJURVEDIC KATHAKA INDEPENDENT SVARITA SCHROEDERcDOUBLE SVARITAcTRIPLE SVARITAcKATHAKA ANUDATTAcDOT BELOW",
  "cTWO DOTS BELOWcTHREE DOTS BELOWcRIGVEDIC KASHMIRI INDEPENDENT SVARITAcATHARVAVEDIC INDEPENDENT SVARITA",
  "bSIGN VISARGA SVARITAdUDATTAcREVERSED VISARGA UDATTAcVISARGA ANUDATTAcREVERSED VISARGA ANUDATTA",
  "cVISARGA UDATTA WITH TAILdANUDATTA WITH TAILcANUSVARA ANTARGOMUKHAdBAHIRGOMUKHAdVAMAGOMUKHAeWITH TAILcTIRYAK",
  "cHEXIFORM LONG ANUSVARAcLONG ANUSVARAcRTHANG LONG ANUSVARAcANUSVARA UBHAYATO MUKHAcARDHAVISARGA",
  "cROTATED ARDHAVISARGAbTONE CANDRA ABOVEbSIGN JIHVAMULIYAcUPADHMANIYAcATIKRAMAbTONE RING ABOVEcDOUBLE RING ABOVE",
  "bSIGN DOUBLE ANUSVARA ANTARGOMUKHA",
  "1D00 aLATIN LETTER SMALL CAPITAL AeAEbSMALL LETTER TURNED AEbLETTER SMALL CAPITAL BARRED BeCeDeETHeE",
  "bSMALL LETTER TURNED OPEN EeIbLETTER SMALL CAPITAL JeKeL WITH STROKEeMeREVERSED NeOeOPEN O",
  "bSMALL LETTER SIDEWAYS OeOPEN OeO WITH STROKEdTURNED OEbLETTER SMALL CAPITAL OUbSMALL LETTER TOP HALF O",
  "dBOTTOM HALF ObLETTER SMALL CAPITAL PeREVERSED ReTURNED ReTeUbSMALL LETTER SIDEWAYS UeDIAERESIZED UeTURNED M",
  "bLETTER SMALL CAPITAL VeWeZeEZHcVOICED LARYNGEAL SPIRANTcAINaGREEK LETTER SMALL CAPITAL GAMMAeLAMDAePIeRHOePSI",
  "aCYRILLIC LETTER SMALL CAPITAL ELaMODIFIER LETTER CAPITAL AdAEdBdBARRED BdDdEdREVERSED EdGdHdIdJdKdLdMdN",
  "dREVERSED NdOdOUdPdRdTdUdWcSMALL AdTURNED AdALPHAdTURNED AEdBdDdEdSCHWAdOPEN EdTURNED OPEN EdGdTURNED IdKdMdENG",
  "dOdOPEN OdTOP HALF OdBOTTOM HALF OdPdTdUdSIDEWAYS UdTURNED MdVdAINdBETAdGREEK GAMMAdDELTAdGREEK PHIdCHI",
  "aLATIN SUBSCRIPT SMALL LETTER IeReUeVaGREEK SUBSCRIPT SMALL LETTER BETAeGAMMAeRHOePHIeCHIaLATIN SMALL LETTER UE",
  "dB WITH MIDDLE TILDEdD WITH MIDDLE TILDEdF WITH MIDDLE TILDEdM WITH MIDDLE TILDEdN WITH MIDDLE TILDE",
  "dP WITH MIDDLE TILDEdR WITH MIDDLE TILDEfFISHHOOK AND MIDDLE TILDEdS WITH MIDDLE TILDEdT WITH MIDDLE TILDE",
  "dZ WITH MIDDLE TILDEdTURNED GaMODIFIER LETTER CYRILLIC ENaLATIN SMALL LETTER INSULAR GdTH WITH STRIKETHROUGH",
  "cCAPITAL LETTER I WITH STROKEcLETTER IOTA WITH STROKEdP WITH STROKEcCAPITAL LETTER U WITH STROKE",
  "cLETTER UPSILON WITH STROKEdB WITH PALATAL HOOKdD WITH PALATAL HOOKdF WITH PALATAL HOOKdG WITH PALATAL HOOK",
  "dK WITH PALATAL HOOKdL WITH PALATAL HOOKdM WITH PALATAL HOOKdN WITH PALATAL HOOKdP WITH PALATAL HOOK",
  "dR WITH PALATAL HOOKdS WITH PALATAL HOOKdESH WITH PALATAL HOOKdV WITH PALATAL HOOKdX WITH PALATAL HOOK",
  "dZ WITH PALATAL HOOKdA WITH RETROFLEX HOOKdALPHA WITH RETROFLEX HOOKdD WITH HOOK AND TAILdE WITH RETROFLEX HOOK",
  "dOPEN E WITH RETROFLEX HOOKdREVERSED OPEN E WITH RETROFLEX HOOKdSCHWA WITH RETROFLEX HOOKdI WITH RETROFLEX HOOK",
  "dOPEN O WITH RETROFLEX HOOKdESH WITH RETROFLEX HOOKdU WITH RETROFLEX HOOKdEZH WITH RETROFLEX HOOK",
  "aMODIFIER LETTER SMALL TURNED ALPHAdCeWITH CURLdETHdREVERSED OPEN EdFdDOTLESS J WITH STROKEdSCRIPT GdTURNED H",
  "dI WITH STROKEdIOTAdCAPITAL IfWITH STROKEdJ WITH CROSSED-TAILdL WITH RETROFLEX HOOKfPALATAL HOOKdCAPITAL L",
  "dM WITH HOOKdTURNED M WITH LONG LEGdN WITH LEFT HOOKfRETROFLEX HOOKdCAPITAL NdBARRED OdPHIdS WITH HOOKdESH",
  "dT WITH PALATAL HOOKdU BARdUPSILONdCAPITAL UdV WITH HOOKdTURNED VdZeWITH RETROFLEX HOOKfCURLdEZHdTHETA",
  "aCOMBINING DOTTED GRAVE ACCENTcACUTE ACCENTbSNAKE BELOWbSUSPENSION MARKbMACRON-ACUTEbGRAVE-MACRONbMACRON-GRAVE",
  "bACUTE-MACRONbGRAVE-ACUTE-GRAVEbACUTE-GRAVE-ACUTEbLATIN SMALL LETTER R BELOWbBREVE-MACRONbMACRON-BREVE",
  "bDOUBLE CIRCUMFLEX ABOVEbOGONEK ABOVEbZIGZAG BELOWbIS BELOWbUR ABOVEbUS ABOVE",
  "bLATIN SMALL LETTER FLATTENED OPEN A ABOVEeAEeAOeAVeC CEDILLAeINSULAR DeETHeGcLETTER SMALL CAPITAL G",
  "cSMALL LETTER KeLcLETTER SMALL CAPITAL LfMcSMALL LETTER NcLETTER SMALL CAPITAL NfRcSMALL LETTER R ROTUNDAeS",
  "eLONG SeZeALPHAeBeBETAeSCHWAeFeL WITH DOUBLE MIDDLE TILDEeO WITH LIGHT CENTRALIZATION STROKEePeESH",
  "eU WITH LIGHT CENTRALIZATION STROKEeWeA WITH DIAERESISeO WITH DIAERESISeU WITH DIAERESISbUP TACK ABOVE",
  "bKAVYKA ABOVE RIGHTdLEFTbDOT ABOVE LEFTbWIDE INVERTED BRIDGE BELOWbDOT BELOW LEFTbDELETION MARK",
  "bDOUBLE INVERTED BREVE BELOWbALMOST EQUAL TO BELOWbLEFT ARROWHEAD ABOVEbRIGHT ARROWHEAD AND DOWN ARROWHEAD BELOW",
  "aLATIN CAPITAL LETTER A WITH RING BELOW~bCAPITAL LETTER B WITH DOT ABOVE~bCAPITAL LETTER B WITH DOT BELOW~",
  "bCAPITAL LETTER B WITH LINE BELOW~bCAPITAL LETTER C WITH CEDILLA AND ACUTE~bCAPITAL LETTER D WITH DOT ABOVE~",
  "bCAPITAL LETTER D WITH DOT BELOW~bCAPITAL LETTER D WITH LINE BELOW~bCAPITAL LETTER D WITH CEDILLA~",
  "bCAPITAL LETTER D WITH CIRCUMFLEX BELOW~bCAPITAL LETTER E WITH MACRON AND GRAVE~",
  "bCAPITAL LETTER E WITH MACRON AND ACUTE~bCAPITAL LETTER E WITH CIRCUMFLEX BELOW~",
  "bCAPITAL LETTER E WITH TILDE BELOW~bCAPITAL LETTER E WITH CEDILLA AND BREVE~bCAPITAL LETTER F WITH DOT ABOVE~",
  "bCAPITAL LETTER G WITH MACRON~bCAPITAL LETTER H WITH DOT ABOVE~bCAPITAL LETTER H WITH DOT BELOW~",
  "bCAPITAL LETTER H WITH DIAERESIS~bCAPITAL LETTER H WITH CEDILLA~bCAPITAL LETTER H WITH BREVE BELOW~",
  "bCAPITAL LETTER I WITH TILDE BELOW~bCAPITAL LETTER I WITH DIAERESIS AND ACUTE~bCAPITAL LETTER K WITH ACUTE~",
  "bCAPITAL LETTER K WITH DOT BELOW~bCAPITAL LETTER K WITH LINE BELOW~bCAPITAL LETTER L WITH DOT BELOW~",
  "bCAPITAL LETTER L WITH DOT BELOW AND MACRON~bCAPITAL LETTER L WITH LINE BELOW~",
  "bCAPITAL LETTER L WITH CIRCUMFLEX BELOW~bCAPITAL LETTER M WITH ACUTE~bCAPITAL LETTER M WITH DOT ABOVE~",
  "bCAPITAL LETTER M WITH DOT BELOW~bCAPITAL LETTER N WITH DOT ABOVE~bCAPITAL LETTER N WITH DOT BELOW~",
  "bCAPITAL LETTER N WITH LINE BELOW~bCAPITAL LETTER N WITH CIRCUMFLEX BELOW~bCAPITAL LETTER O WITH TILDE AND ACUTE",
  "~bCAPITAL LETTER O WITH TILDE AND DIAERESIS~bCAPITAL LETTER O WITH MACRON AND GRAVE~",
  "bCAPITAL LETTER O WITH MACRON AND ACUTE~bCAPITAL LETTER P WITH ACUTE~bCAPITAL LETTER P WITH DOT ABOVE~",
  "bCAPITAL LETTER R WITH DOT ABOVE~bCAPITAL LETTER R WITH DOT BELOW~bCAPITAL LETTER R WITH DOT BELOW AND MACRON~",
  "bCAPITAL LETTER R WITH LINE BELOW~bCAPITAL LETTER S WITH DOT ABOVE~bCAPITAL LETTER S WITH DOT BELOW~",
  "bCAPITAL LETTER S WITH ACUTE AND DOT ABOVE~bCAPITAL LETTER S WITH CARON AND DOT ABOVE~",
  "bCAPITAL LETTER S WITH DOT BELOW AND DOT ABOVE~bCAPITAL LETTER T WITH DOT ABOVE~bCAPITAL LETTER T WITH DOT BELOW",
  "~bCAPITAL LETTER T WITH LINE BELOW~bCAPITAL LETTER T WITH CIRCUMFLEX BELOW~",
  "bCAPITAL LETTER U WITH DIAERESIS BELOW~bCAPITAL LETTER U WITH TILDE BELOW~",
  "bCAPITAL LETTER U WITH CIRCUMFLEX BELOW~bCAPITAL LETTER U WITH TILDE AND ACUTE~",
  "bCAPITAL LETTER U WITH MACRON AND DIAERESIS~bCAPITAL LETTER V WITH TILDE~bCAPITAL LETTER V WITH DOT BELOW~",
  "bCAPITAL LETTER W WITH GRAVE~bCAPITAL LETTER W WITH ACUTE~bCAPITAL LETTER W WITH DIAERESIS~",
  "bCAPITAL LETTER W WITH DOT ABOVE~bCAPITAL LETTER W WITH DOT BELOW~bCAPITAL LETTER X WITH DOT ABOVE~",
  "bCAPITAL LETTER X WITH DIAERESIS~bCAPITAL LETTER Y WITH DOT ABOVE~bCAPITAL LETTER Z WITH CIRCUMFLEX~",
  "bCAPITAL LETTER Z WITH DOT BELOW~bCAPITAL LETTER Z WITH LINE BELOW~dH WITH LINE BELOWdT WITH DIAERESIS",
  "dW WITH RING ABOVEdY WITH RING ABOVEdA WITH RIGHT HALF RINGdLONG S WITH DOT ABOVEgDIAGONAL STROKEgHIGH STROKE",
  "bCAPITAL LETTER SHARP SbSMALL LETTER DELTAbCAPITAL LETTER A WITH DOT BELOW~bCAPITAL LETTER A WITH HOOK ABOVE~",
  "bCAPITAL LETTER A WITH CIRCUMFLEX AND ACUTE~bCAPITAL LETTER A WITH CIRCUMFLEX AND GRAVE~",
  "bCAPITAL LETTER A WITH CIRCUMFLEX AND HOOK ABOVE~bCAPITAL LETTER A WITH CIRCUMFLEX AND TILDE~",
  "bCAPITAL LETTER A WITH CIRCUMFLEX AND DOT BELOW~bCAPITAL LETTER A WITH BREVE AND ACUTE~",
  "bCAPITAL LETTER A WITH BREVE AND GRAVE~bCAPITAL LETTER A WITH BREVE AND HOOK ABOVE~",
  "bCAPITAL LETTER A WITH BREVE AND TILDE~bCAPITAL LETTER A WITH BREVE AND DOT BELOW~",
  "bCAPITAL LETTER E WITH DOT BELOW~bCAPITAL LETTER E WITH HOOK ABOVE~bCAPITAL LETTER E WITH TILDE~",
  "bCAPITAL LETTER E WITH CIRCUMFLEX AND ACUTE~bCAPITAL LETTER E WITH CIRCUMFLEX AND GRAVE~",
  "bCAPITAL LETTER E WITH CIRCUMFLEX AND HOOK ABOVE~bCAPITAL LETTER E WITH CIRCUMFLEX AND TILDE~",
  "bCAPITAL LETTER E WITH CIRCUMFLEX AND DOT BELOW~bCAPITAL LETTER I WITH HOOK ABOVE~",
  "bCAPITAL LETTER I WITH DOT BELOW~bCAPITAL LETTER O WITH DOT BELOW~bCAPITAL LETTER O WITH HOOK ABOVE~",
  "bCAPITAL LETTER O WITH CIRCUMFLEX AND ACUTE~bCAPITAL LETTER O WITH CIRCUMFLEX AND GRAVE~",
  "bCAPITAL LETTER O WITH CIRCUMFLEX AND HOOK ABOVE~bCAPITAL LETTER O WITH CIRCUMFLEX AND TILDE~",
  "bCAPITAL LETTER O WITH CIRCUMFLEX AND DOT BELOW~bCAPITAL LETTER O WITH HORN AND ACUTE~",
  "bCAPITAL LETTER O WITH HORN AND GRAVE~bCAPITAL LETTER O WITH HORN AND HOOK ABOVE~",
  "bCAPITAL LETTER O WITH HORN AND TILDE~bCAPITAL LETTER O WITH HORN AND DOT BELOW~bCAPITAL LETTER U WITH DOT BELOW",
  "~bCAPITAL LETTER U WITH HOOK ABOVE~bCAPITAL LETTER U WITH HORN AND ACUTE~bCAPITAL LETTER U WITH HORN AND GRAVE~",
  "bCAPITAL LETTER U WITH HORN AND HOOK ABOVE~bCAPITAL LETTER U WITH HORN AND TILDE~",
  "bCAPITAL LETTER U WITH HORN AND DOT BELOW~bCAPITAL LETTER Y WITH GRAVE~bCAPITAL LETTER Y WITH DOT BELOW~",
  "bCAPITAL LETTER Y WITH HOOK ABOVE~bCAPITAL LETTER Y WITH TILDE~bCAPITAL LETTER MIDDLE-WELSH LL~",
  "bCAPITAL LETTER MIDDLE-WELSH V~bCAPITAL LETTER Y WITH LOOP~aGREEK SMALL LETTER ALPHA WITH PSILIfDASIA",
  "fPSILI AND VARIAfDASIA AND VARIAfPSILI AND OXIAfDASIA AND OXIAfPSILI AND PERISPOMENIfDASIA AND PERISPOMENI",
  "bCAPITAL LETTER ALPHA WITH PSILIfDASIAfPSILI AND VARIAfDASIA AND VARIAfPSILI AND OXIAfDASIA AND OXIA",
  "fPSILI AND PERISPOMENIfDASIA AND PERISPOMENIbSMALL LETTER EPSILON WITH PSILIfDASIAfPSILI AND VARIA",
  "fDASIA AND VARIAfPSILI AND OXIAfDASIA AND OXIA",
  "1F18 bCAPITAL LETTER EPSILON WITH PSILIfDASIAfPSILI AND VARIAfDASIA AND VARIAfPSILI AND OXIAfDASIA AND OXIA",
  "1F20 bSMALL LETTER ETA WITH PSILIfDASIAfPSILI AND VARIAfDASIA AND VARIAfPSILI AND OXIAfDASIA AND OXIA",
  "fPSILI AND PERISPOMENIfDASIA AND PERISPOMENIbCAPITAL LETTER ETA WITH PSILIfDASIAfPSILI AND VARIAfDASIA AND VARIA",
  "fPSILI AND OXIAfDASIA AND OXIAfPSILI AND PERISPOMENIfDASIA AND PERISPOMENIbSMALL LETTER IOTA WITH PSILIfDASIA",
  "fPSILI AND VARIAfDASIA AND VARIAfPSILI AND OXIAfDASIA AND OXIAfPSILI AND PERISPOMENIfDASIA AND PERISPOMENI",
  "bCAPITAL LETTER IOTA WITH PSILIfDASIAfPSILI AND VARIAfDASIA AND VARIAfPSILI AND OXIAfDASIA AND OXIA",
  "fPSILI AND PERISPOMENIfDASIA AND PERISPOMENIbSMALL LETTER OMICRON WITH PSILIfDASIAfPSILI AND VARIA",
  "fDASIA AND VARIAfPSILI AND OXIAfDASIA AND OXIA",
  "1F48 bCAPITAL LETTER OMICRON WITH PSILIfDASIAfPSILI AND VARIAfDASIA AND VARIAfPSILI AND OXIAfDASIA AND OXIA",
  "1F50 bSMALL LETTER UPSILON WITH PSILIfDASIAfPSILI AND VARIAfDASIA AND VARIAfPSILI AND OXIAfDASIA AND OXIA",
  "fPSILI AND PERISPOMENIfDASIA AND PERISPOMENI",
  "1F59 bCAPITAL LETTER UPSILON WITH DASIA",
  "1F5B gAND VARIA",
  "1F5D hOXIA",
  "1F5F hPERISPOMENIbSMALL LETTER OMEGA WITH PSILIfDASIAfPSILI AND VARIAfDASIA AND VARIAfPSILI AND OXIA",
  "fDASIA AND OXIAfPSILI AND PERISPOMENIfDASIA AND PERISPOMENIbCAPITAL LETTER OMEGA WITH PSILIfDASIA",
  "fPSILI AND VARIAfDASIA AND VARIAfPSILI AND OXIAfDASIA AND OXIAfPSILI AND PERISPOMENIfDASIA AND PERISPOMENI",
  "bSMALL LETTER ALPHA WITH VARIAfOXIAdEPSILON WITH VARIAfOXIAdETA WITH VARIAfOXIAdIOTA WITH VARIAfOXIA",
  "dOMICRON WITH VARIAfOXIAdUPSILON WITH VARIAfOXIAdOMEGA WITH VARIAfOXIA",
  "1F80 dALPHA WITH PSILI AND YPOGEGRAMMENIfDASIA AND YPOGEGRAMMENIfPSILI AND VARIA AND YPOGEGRAMMENI",
  "fDASIA AND VARIA AND YPOGEGRAMMENIfPSILI AND OXIA AND YPOGEGRAMMENIfDASIA AND OXIA AND YPOGEGRAMMENI",
  "fPSILI AND PERISPOMENI AND YPOGEGRAMMENIfDASIA AND PERISPOMENI AND YPOGEGRAMMENI",
  "bCAPITAL LETTER ALPHA WITH PSILI AND PROSGEGRAMMENIfDASIA AND PROSGEGRAMMENIfPSILI AND VARIA AND PROSGEGRAMMENI",
  "fDASIA AND VARIA AND PROSGEGRAMMENIfPSILI AND OXIA AND PROSGEGRAMMENIfDASIA AND OXIA AND PROSGEGRAMMENI",
  "fPSILI AND PERISPOMENI AND PROSGEGRAMMENIfDASIA AND PERISPOMENI AND PROSGEGRAMMENI",
  "bSMALL LETTER ETA WITH PSILI AND YPOGEGRAMMENIfDASIA AND YPOGEGRAMMENIfPSILI AND VARIA AND YPOGEGRAMMENI",
  "fDASIA AND VARIA AND YPOGEGRAMMENIfPSILI AND OXIA AND YPOGEGRAMMENIfDASIA AND OXIA AND YPOGEGRAMMENI",
  "fPSILI AND PERISPOMENI AND YPOGEGRAMMENIfDASIA AND PERISPOMENI AND YPOGEGRAMMENI",
  "bCAPITAL LETTER ETA WITH PSILI AND PROSGEGRAMMENIfDASIA AND PROSGEGRAMMENIfPSILI AND VARIA AND PROSGEGRAMMENI",
  "fDASIA AND VARIA AND PROSGEGRAMMENIfPSILI AND OXIA AND PROSGEGRAMMENIfDASIA AND OXIA AND PROSGEGRAMMENI",
  "fPSILI AND PERISPOMENI AND PROSGEGRAMMENIfDASIA AND PERISPOMENI AND PROSGEGRAMMENI",
  "bSMALL LETTER OMEGA WITH PSILI AND YPOGEGRAMMENIfDASIA AND YPOGEGRAMMENIfPSILI AND VARIA AND YPOGEGRAMMENI",
  "fDASIA AND VARIA AND YPOGEGRAMMENIfPSILI AND OXIA AND YPOGEGRAMMENIfDASIA AND OXIA AND YPOGEGRAMMENI",
  "fPSILI AND PERISPOMENI AND YPOGEGRAMMENIfDASIA AND PERISPOMENI AND YPOGEGRAMMENI",
  "bCAPITAL LETTER OMEGA WITH PSILI AND PROSGEGRAMMENIfDASIA AND PROSGEGRAMMENIfPSILI AND VARIA AND PROSGEGRAMMENI",
  "fDASIA AND VARIA AND PROSGEGRAMMENIfPSILI AND OXIA AND PROSGEGRAMMENIfDASIA AND OXIA AND PROSGEGRAMMENI",
  "fPSILI AND PERISPOMENI AND PROSGEGRAMMENIfDASIA AND PERISPOMENI AND PROSGEGRAMMENI",
  "bSMALL LETTER ALPHA WITH VRACHYfMACRONfVARIA AND YPOGEGRAMMENIfYPOGEGRAMMENIfOXIA AND YPOGEGRAMMENI",
  "1FB6 fPERISPOMENIgAND YPOGEGRAMMENIbCAPITAL LETTER ALPHA WITH VRACHYfMACRONfVARIAfOXIAfPROSGEGRAMMENIbKORONIS",
  "bPROSGEGRAMMENIbPSILIbPERISPOMENIbDIALYTIKA AND PERISPOMENIbSMALL LETTER ETA WITH VARIA AND YPOGEGRAMMENI",
  "fYPOGEGRAMMENIfOXIA AND YPOGEGRAMMENI",
  "1FC6 fPERISPOMENIgAND YPOGEGRAMMENIbCAPITAL LETTER EPSILON WITH VARIAfOXIAdETA WITH VARIAfOXIAfPROSGEGRAMMENI",
  "bPSILI AND VARIAdOXIAdPERISPOMENIbSMALL LETTER IOTA WITH VRACHYfMACRONfDIALYTIKA AND VARIAhOXIA",
  "1FD6 fPERISPOMENIfDIALYTIKA AND PERISPOMENIbCAPITAL LETTER IOTA WITH VRACHYfMACRONfVARIAfOXIA",
  "1FDD bDASIA AND VARIAdOXIAdPERISPOMENIbSMALL LETTER UPSILON WITH VRACHYfMACRONfDIALYTIKA AND VARIAhOXIA",
  "dRHO WITH PSILIfDASIAdUPSILON WITH PERISPOMENIfDIALYTIKA AND PERISPOMENIbCAPITAL LETTER UPSILON WITH VRACHY",
  "fMACRONfVARIAfOXIAdRHO WITH DASIAbDIALYTIKA AND VARIAdOXIAbVARIA",
  "1FF2 bSMALL LETTER OMEGA WITH VARIA AND YPOGEGRAMMENIfYPOGEGRAMMENIfOXIA AND YPOGEGRAMMENI",
  "1FF6 fPERISPOMENIgAND YPOGEGRAMMENIbCAPITAL LETTER OMICRON WITH VARIAfOXIAdOMEGA WITH VARIAfOXIAfPROSGEGRAMMENI",
  "bOXIAbDASIA"]

end SpellLint.Text
