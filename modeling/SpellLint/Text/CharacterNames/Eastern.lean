/-! # Names of the characters from U+3000 to U+FFFF -/

set_option autoImplicit false

namespace SpellLint.Text

/-- Runs of names in the form that is described at the search for a name. -/
def easternNames : List String := [
  "3000 aIDEOGRAPHIC SPACEbCOMMAbFULL STOPaDITTO MARKaJAPANESE INDUSTRIAL STANDARD SYMBOL",
  "aIDEOGRAPHIC ITERATION MARKbCLOSING MARKbNUMBER ZEROaLEFT ANGLE BRACKETaRIGHT ANGLE BRACKET",
  "aLEFT DOUBLE ANGLE BRACKETaRIGHT DOUBLE ANGLE BRACKETaLEFT CORNER BRACKETaRIGHT CORNER BRACKET",
  "aLEFT WHITE CORNER BRACKETaRIGHT WHITE CORNER BRACKETaLEFT BLACK LENTICULAR BRACKET",
  "aRIGHT BLACK LENTICULAR BRACKETaPOSTAL MARKaGETA MARKaLEFT TORTOISE SHELL BRACKETaRIGHT TORTOISE SHELL BRACKET",
  "aLEFT WHITE LENTICULAR BRACKETaRIGHT WHITE LENTICULAR BRACKETaLEFT WHITE TORTOISE SHELL BRACKET",
  "aRIGHT WHITE TORTOISE SHELL BRACKETaLEFT WHITE SQUARE BRACKETaRIGHT WHITE SQUARE BRACKETaWAVE DASH",
  "aREVERSED DOUBLE PRIME QUOTATION MARKaDOUBLE PRIME QUOTATION MARKaLOW DOUBLE PRIME QUOTATION MARK",
  "aPOSTAL MARK FACEaHANGZHOU NUMERAL ONEcTWOcTHREEcFOURcFIVEcSIXcSEVENcEIGHTcNINEaIDEOGRAPHIC LEVEL TONE MARK",
  "bRISING TONE MARKbDEPARTING TONE MARKbENTERING TONE MARKaHANGUL SINGLE DOT TONE MARKbDOUBLE DOT TONE MARK",
  "aWAVY DASHaVERTICAL KANA REPEAT MARKdWITH VOICED SOUND MARKdMARK UPPER HALFdWITH VOICED SOUND MARK UPPER HALF",
  "dMARK LOWER HALFaCIRCLED POSTAL MARKaIDEOGRAPHIC TELEGRAPH LINE FEED SEPARATOR SYMBOLaHANGZHOU NUMERAL TEN",
  "cTWENTYcTHIRTYaVERTICAL IDEOGRAPHIC ITERATION MARKaMASU MARKaPART ALTERNATION MARK",
  "aIDEOGRAPHIC VARIATION INDICATORbHALF FILL SPACE",
  "3041 aHIRAGANA LETTER SMALL AcAcSMALL IcIcSMALL UcUcSMALL EcEcSMALL OcOcKAcGAcKIcGIcKUcGUcKEcGEcKOcGOcSAcZAcSI",
  "cZIcSUcZUcSEcZEcSOcZOcTAcDAcTIcDIcSMALL TUcTUcDUcTEcDEcTOcDOcNAcNIcNUcNEcNOcHAcBAcPAcHIcBIcPIcHUcBUcPUcHEcBEcPE",
  "cHOcBOcPOcMAcMIcMUcMEcMOcSMALL YAcYAcSMALL YUcYUcSMALL YOcYOcRAcRIcRUcREcROcSMALL WAcWAcWIcWEcWOcNcVUcSMALL KA",
  "dKE",
  "3099 aCOMBINING KATAKANA-HIRAGANA VOICED SOUND MARKcSEMI-VOICED SOUND MARKaKATAKANA-HIRAGANA VOICED SOUND MARK",
  "bSEMI-VOICED SOUND MARKaHIRAGANA ITERATION MARKbVOICED ITERATION MARKbDIGRAPH YORI",
  "aKATAKANA-HIRAGANA DOUBLE HYPHENaKATAKANA LETTER SMALL AcAcSMALL IcIcSMALL UcUcSMALL EcEcSMALL OcOcKAcGAcKIcGI",
  "cKUcGUcKEcGEcKOcGOcSAcZAcSIcZIcSUcZUcSEcZEcSOcZOcTAcDAcTIcDIcSMALL TUcTUcDUcTEcDEcTOcDOcNAcNIcNUcNEcNOcHAcBAcPA",
  "cHIcBIcPIcHUcBUcPUcHEcBEcPEcHOcBOcPOcMAcMIcMUcMEcMOcSMALL YAcYAcSMALL YUcYUcSMALL YOcYOcRAcRIcRUcREcROcSMALL WA",
  "cWAcWIcWEcWOcNcVUcSMALL KAdKEcVAcVIcVEcVObMIDDLE DOTaKATAKANA-HIRAGANA PROLONGED SOUND MARK",
  "aKATAKANA ITERATION MARKbVOICED ITERATION MARKbDIGRAPH KOTO",
  "3105 aBOPOMOFO LETTER BcPcMcFcDcTcNcLcGcKcHcJcQcXcZHcCHcSHcRcZcCcScAcOcEcEHcAIcEIcAUcOUcANcENcANGcENGcERcIcUcIU",
  "cVcNGcGNcIHcO WITH DOT ABOVEcNN",
  "3131 aHANGUL LETTER KIYEOKcSSANGKIYEOKcKIYEOK-SIOScNIEUNcNIEUN-CIEUCcNIEUN-HIEUHcTIKEUTcSSANGTIKEUTcRIEUL",
  "cRIEUL-KIYEOKcRIEUL-MIEUMcRIEUL-PIEUPcRIEUL-SIOScRIEUL-THIEUTHcRIEUL-PHIEUPHcRIEUL-HIEUHcMIEUMcPIEUPcSSANGPIEUP",
  "cPIEUP-SIOScSIOScSSANGSIOScIEUNGcCIEUCcSSANGCIEUCcCHIEUCHcKHIEUKHcTHIEUTHcPHIEUPHcHIEUHcAcAEcYAcYAEcEOcEcYEOcYE",
  "cOcWAcWAEcOEcYOcUcWEOcWEcWIcYUcEUcYIcIbFILLERbLETTER SSANGNIEUNcNIEUN-TIKEUTcNIEUN-SIOScNIEUN-PANSIOS",
  "cRIEUL-KIYEOK-SIOScRIEUL-TIKEUTcRIEUL-PIEUP-SIOScRIEUL-PANSIOScRIEUL-YEORINHIEUHcMIEUM-PIEUPcMIEUM-SIOS",
  "cMIEUM-PANSIOScKAPYEOUNMIEUMcPIEUP-KIYEOKcPIEUP-TIKEUTcPIEUP-SIOS-KIYEOKcPIEUP-SIOS-TIKEUTcPIEUP-CIEUC",
  "cPIEUP-THIEUTHcKAPYEOUNPIEUPcKAPYEOUNSSANGPIEUPcSIOS-KIYEOKcSIOS-NIEUNcSIOS-TIKEUTcSIOS-PIEUPcSIOS-CIEUCcPANSIOS",
  "cSSANGIEUNGcYESIEUNGcYESIEUNG-SIOScYESIEUNG-PANSIOScKAPYEOUNPHIEUPHcSSANGHIEUHcYEORINHIEUHcYO-YAcYO-YAEcYO-I",
  "cYU-YEOcYU-YEcYU-IcARAEAcARAEAE",
  "3190 aIDEOGRAPHIC ANNOTATION LINKING MARKcREVERSE MARKcONE MARKcTWO MARKcTHREE MARKcFOUR MARKcTOP MARK",
  "cMIDDLE MARKcBOTTOM MARKcFIRST MARKcSECOND MARKcTHIRD MARKcFOURTH MARKcHEAVEN MARKcEARTH MARKcMAN MARK",
  "aBOPOMOFO LETTER BUcZIcJIcGUcEEcENNcOOcONNcIRcANNcINNcUNNcIMcNGGcAINNcAUNNcAMcOMcONGcINNNbFINAL LETTER PdTdKdH",
  "bLETTER GHcLHcZYbFINAL LETTER GbLETTER GWcKWcOEcAHaCJK STROKE TcWGcXGcBXGcSWcHZZcHZGcHPcHZWGcSZWGcHZTcHZZPcHPWG",
  "cHZWcHZZZcNcHcScPcSPcDcHZcHGcSZcSWZcSTcSGcPDcPZcTNcSZZcSWGcHXWGcHZZZGcPGcQ",
  "31F0 aKATAKANA LETTER SMALL KUdSIdSUdTOdNUdHAdHIdHUdHEdHOdMUdRAdRIdRUdREdROaPARENTHESIZED HANGUL KIYEOKcNIEUN",
  "cTIKEUTcRIEULcMIEUMcPIEUPcSIOScIEUNGcCIEUCcCHIEUCHcKHIEUKHcTHIEUTHcPHIEUPHcHIEUHcKIYEOK AcNIEUN AcTIKEUT A",
  "cRIEUL AcMIEUM AcPIEUP AcSIOS AcIEUNG AcCIEUC AcCHIEUCH AcKHIEUKH AcTHIEUTH AcPHIEUPH AcHIEUH AcCIEUC U",
  "bKOREAN CHARACTER OJEONdO HU",
  "3220 bIDEOGRAPH ONEcTWOcTHREEcFOURcFIVEcSIXcSEVENcEIGHTcNINEcTENcMOONcFIREcWATERcWOODcMETALcEARTHcSUNcSTOCKcHAVE",
  "cSOCIETYcNAMEcSPECIALcFINANCIALcCONGRATULATIONcLABORcREPRESENTcCALLcSTUDYcSUPERVISEcENTERPRISEcRESOURCEcALLIANCE",
  "cFESTIVALcRESTcSELFcREACHaCIRCLED IDEOGRAPH QUESTIONcKINDERGARTENcSCHOOLcKOTObNUMBER TEN ON BLACK SQUARE",
  "cTWENTY ON BLACK SQUAREcTHIRTY ON BLACK SQUAREcFORTY ON BLACK SQUAREcFIFTY ON BLACK SQUAREcSIXTY ON BLACK SQUARE",
  "cSEVENTY ON BLACK SQUAREcEIGHTY ON BLACK SQUAREaPARTNERSHIP SIGNaCIRCLED NUMBER TWENTY ONEdTWOdTHREEdFOURdFIVE",
  "dSIXdSEVENdEIGHTdNINEcTHIRTYdONEdTWOdTHREEdFOURdFIVEbHANGUL KIYEOKcNIEUNcTIKEUTcRIEULcMIEUMcPIEUPcSIOScIEUNG",
  "cCIEUCcCHIEUCHcKHIEUKHcTHIEUTHcPHIEUPHcHIEUHcKIYEOK AcNIEUN AcTIKEUT AcRIEUL AcMIEUM AcPIEUP AcSIOS AcIEUNG A",
  "cCIEUC AcCHIEUCH AcKHIEUKH AcTHIEUTH AcPHIEUPH AcHIEUH AbKOREAN CHARACTER CHAMKOdJUEUIbHANGUL IEUNG U",
  "aKOREAN STANDARD SYMBOLaCIRCLED IDEOGRAPH ONEcTWOcTHREEcFOURcFIVEcSIXcSEVENcEIGHTcNINEcTENcMOONcFIREcWATERcWOOD",
  "cMETALcEARTHcSUNcSTOCKcHAVEcSOCIETYcNAMEcSPECIALcFINANCIALcCONGRATULATIONcLABORcSECRETcMALEcFEMALEcSUITABLE",
  "cEXCELLENTcPRINTcATTENTIONcITEMcRESTcCOPYcCORRECTcHIGHcCENTREcLOWcLEFTcRIGHTcMEDICINEcRELIGIONcSTUDYcSUPERVISE",
  "cENTERPRISEcRESOURCEcALLIANCEcNIGHTbNUMBER THIRTY SIXdSEVENdEIGHTdNINEcFORTYdONEdTWOdTHREEdFOURdFIVEdSIXdSEVEN",
  "dEIGHTdNINEcFIFTYaIDEOGRAPHIC TELEGRAPH SYMBOL FOR JANUARYeFEBRUARYeMARCHeAPRILeMAYeJUNEeJULYeAUGUSTeSEPTEMBER",
  "eOCTOBEReNOVEMBEReDECEMBERaSQUARE HGbERGbEVaLIMITED LIABILITY SIGNaCIRCLED KATAKANA AcIcUcEcOcKAcKIcKUcKEcKOcSA",
  "cSIcSUcSEcSOcTAcTIcTUcTEcTOcNAcNIcNUcNEcNOcHAcHIcHUcHEcHOcMAcMIcMUcMEcMOcYAcYUcYOcRAcRIcRUcREcROcWAcWIcWEcWO",
  "aSQUARE ERA NAME REIWAbAPAATObARUHUAbANPEAbAARUbININGUbINTIbUONbESUKUUDObEEKAAbONSUbOOMUbKAIRIbKARATTObKARORII",
  "bGARONbGANMAbGIGAbGINIIbKYURIIbGIRUDAAbKIRObKIROGURAMUbKIROMEETORUbKIROWATTObGURAMUbGURAMUTONbKURUZEIRObKUROONE",
  "bKEESUbKORUNAbKOOPObSAIKURUbSANTIIMUbSIRINGUbSENTIbSENTObDAASUbDESIbDORUbTONbNANObNOTTObHAITUbPAASENTObPAATU",
  "bBAARERUbPIASUTORUbPIKURUbPIKObBIRUbHUARADDObHUIITObBUSSYERUbHURANbHEKUTAARUbPESObPENIHIbHERUTUbPENSUbPEEZI",
  "bBEETAbPOINTObBORUTObHONbPONDObHOORUbHOONbMAIKURObMAIRUbMAHHAbMARUKUbMANSYONbMIKURONbMIRIbMIRIBAARUbMEGAbMEGATON",
  "bMEETORUbYAADObYAARUbYUANbRITTORUbRIRAbRUPIIbRUUBURUbREMUbRENTOGENbWATTO",
  "aIDEOGRAPHIC TELEGRAPH SYMBOL FOR HOUR ZEROfONEfTWOfTHREEfFOURfFIVEfSIXfSEVENfEIGHTfNINEfTENfELEVENfTWELVE",
  "fTHIRTEENfFOURTEENfFIFTEENfSIXTEENfSEVENTEENfEIGHTEENfNINETEENfTWENTYfTWENTY-ONEfTWENTY-TWOfTWENTY-THREE",
  "fTWENTY-FOURaSQUARE HPAbDAbAUbBARbOVbPCbDMcSQUAREDcCUBEDbIUbERA NAME HEISEIdSYOUWAdTAISYOUdMEIZIbCORPORATION",
  "bPA AMPSbNAbMU AbMAbKAbKBbMBbGBbCALbKCALbPFbNFbMU FcGbMGbKGbHZbKHZbMHZbGHZbTHZbMU LbMLbDLbKLbFMbNMbMU MbMMbCMbKM",
  "bMM SQUAREDbCM SQUAREDbM SQUAREDbKM SQUAREDbMM CUBEDbCM CUBEDbM CUBEDbKM CUBEDbM OVER SeSQUAREDbPAbKPAbMPAbGPA",
  "bRADcOVER SeSQUAREDbPSbNSbMU SbMSbPVbNVbMU VbMVbKVbMV MEGAbPWbNWbMU WbMWbKWbMW MEGAbK OHMbM OHMbAMbBQbCCbCD",
  "bC OVER KGbCObDBbGYbHAbHPbINbKKbKM CAPITALbKTbLMbLNbLOGbLXbMB SMALLbMILbMOLbPHbPMbPPMbPRbSRbSVbWBbV OVER M",
  "bA OVER MaIDEOGRAPHIC TELEGRAPH SYMBOL FOR DAY ONEfTWOfTHREEfFOURfFIVEfSIXfSEVENfEIGHTfNINEfTENfELEVENfTWELVE",
  "fTHIRTEENfFOURTEENfFIFTEENfSIXTEENfSEVENTEENfEIGHTEENfNINETEENfTWENTYfTWENTY-ONEfTWENTY-TWOfTWENTY-THREE",
  "fTWENTY-FOURfTWENTY-FIVEfTWENTY-SIXfTWENTY-SEVENfTWENTY-EIGHTfTWENTY-NINEfTHIRTYfTHIRTY-ONEaSQUARE GAL",
  "4DC0 aHEXAGRAM FOR THE CREATIVE HEAVENdRECEPTIVE EARTHcDIFFICULTY AT THE BEGINNINGcYOUTHFUL FOLLYcWAITING",
  "cCONFLICTcTHE ARMYcHOLDING TOGETHERcSMALL TAMINGcTREADINGcPEACEcSTANDSTILLcFELLOWSHIPcGREAT POSSESSIONcMODESTY",
  "cENTHUSIASMcFOLLOWINGcWORK ON THE DECAYEDcAPPROACHcCONTEMPLATIONcBITING THROUGHcGRACEcSPLITTING APARTcRETURN",
  "cINNOCENCEcGREAT TAMINGcMOUTH CORNERScGREAT PREPONDERANCEcTHE ABYSMAL WATERdCLINGING FIREcINFLUENCEcDURATION",
  "cRETREATcGREAT POWERcPROGRESScDARKENING OF THE LIGHTcTHE FAMILYcOPPOSITIONcOBSTRUCTIONcDELIVERANCEcDECREASE",
  "cINCREASEcBREAKTHROUGHcCOMING TO MEETcGATHERING TOGETHERcPUSHING UPWARDcOPPRESSIONcTHE WELLcREVOLUTION",
  "cTHE CAULDRONdAROUSING THUNDERdKEEPING STILL MOUNTAINcDEVELOPMENTcTHE MARRYING MAIDENcABUNDANCEcTHE WANDERER",
  "dGENTLE WINDdJOYOUS LAKEcDISPERSIONcLIMITATIONcINNER TRUTHcSMALL PREPONDERANCEcAFTER COMPLETION",
  "cBEFORE COMPLETION",
  "A000 aYI SYLLABLE ITcIXcIcIPcIETcIEXcIEcIEPcATcAXcAcAPcUOXcUOcUOPcOTcOXcOcOPcEXcEcWUcBITcBIXcBIcBIPcBIETcBIEX",
  "cBIEcBIEPcBATcBAXcBAcBAPcBUOXcBUOcBUOPcBOTcBOXcBOcBOPcBEXcBEcBEPcBUTcBUXcBUcBUPcBURXcBURcBYTcBYXcBYcBYPcBYRXcBYR",
  "cPITcPIXcPIcPIPcPIEXcPIEcPIEPcPATcPAXcPAcPAPcPUOXcPUOcPUOPcPOTcPOXcPOcPOPcPUTcPUXcPUcPUPcPURXcPURcPYTcPYXcPYcPYP",
  "cPYRXcPYRcBBITcBBIXcBBIcBBIPcBBIETcBBIEXcBBIEcBBIEPcBBATcBBAXcBBAcBBAPcBBUOXcBBUOcBBUOPcBBOTcBBOXcBBOcBBOPcBBEX",
  "cBBEcBBEPcBBUTcBBUXcBBUcBBUPcBBURXcBBURcBBYTcBBYXcBBYcBBYPcNBITcNBIXcNBIcNBIPcNBIEXcNBIEcNBIEPcNBATcNBAXcNBA",
  "cNBAPcNBOTcNBOXcNBOcNBOPcNBUTcNBUXcNBUcNBUPcNBURXcNBURcNBYTcNBYXcNBYcNBYPcNBYRXcNBYRcHMITcHMIXcHMIcHMIPcHMIEX",
  "cHMIEcHMIEPcHMATcHMAXcHMAcHMAPcHMUOXcHMUOcHMUOPcHMOTcHMOXcHMOcHMOPcHMUTcHMUXcHMUcHMUPcHMURXcHMURcHMYXcHMYcHMYP",
  "cHMYRXcHMYRcMITcMIXcMIcMIPcMIEXcMIEcMIEPcMATcMAXcMAcMAPcMUOTcMUOXcMUOcMUOPcMOTcMOXcMOcMOPcMEXcMEcMUTcMUXcMUcMUP",
  "cMURXcMURcMYTcMYXcMYcMYPcFITcFIXcFIcFIPcFATcFAXcFAcFAPcFOXcFOcFOPcFUTcFUXcFUcFUPcFURXcFURcFYTcFYXcFYcFYPcVITcVIX",
  "cVIcVIPcVIETcVIEXcVIEcVIEPcVATcVAXcVAcVAPcVOTcVOXcVOcVOPcVEXcVEPcVUTcVUXcVUcVUPcVURXcVURcVYTcVYXcVYcVYPcVYRXcVYR",
  "cDITcDIXcDIcDIPcDIEXcDIEcDIEPcDATcDAXcDAcDAPcDUOXcDUOcDOTcDOXcDOcDOPcDEXcDEcDEPcDUTcDUXcDUcDUPcDURXcDURcTITcTIX",
  "cTIcTIPcTIEXcTIEcTIEPcTATcTAXcTAcTAPcTUOTcTUOXcTUOcTUOPcTOTcTOXcTOcTOPcTEXcTEcTEPcTUTcTUXcTUcTUPcTURXcTURcDDIT",
  "cDDIXcDDIcDDIPcDDIEXcDDIEcDDIEPcDDATcDDAXcDDAcDDAPcDDUOXcDDUOcDDUOPcDDOTcDDOXcDDOcDDOPcDDEXcDDEcDDEPcDDUTcDDUX",
  "cDDUcDDUPcDDURXcDDURcNDITcNDIXcNDIcNDIPcNDIEXcNDIEcNDATcNDAXcNDAcNDAPcNDOTcNDOXcNDOcNDOPcNDEXcNDEcNDEPcNDUTcNDUX",
  "cNDUcNDUPcNDURXcNDURcHNITcHNIXcHNIcHNIPcHNIETcHNIEXcHNIEcHNIEPcHNATcHNAXcHNAcHNAPcHNUOXcHNUOcHNOTcHNOXcHNOPcHNEX",
  "cHNEcHNEPcHNUTcNITcNIXcNIcNIPcNIEXcNIEcNIEPcNAXcNAcNAPcNUOXcNUOcNUOPcNOTcNOXcNOcNOPcNEXcNEcNEPcNUTcNUXcNUcNUP",
  "cNURXcNURcHLITcHLIXcHLIcHLIPcHLIEXcHLIEcHLIEPcHLATcHLAXcHLAcHLAPcHLUOXcHLUOcHLUOPcHLOXcHLOcHLOPcHLEXcHLEcHLEP",
  "cHLUTcHLUXcHLUcHLUPcHLURXcHLURcHLYTcHLYXcHLYcHLYPcHLYRXcHLYRcLITcLIXcLIcLIPcLIETcLIEXcLIEcLIEPcLATcLAXcLAcLAP",
  "cLUOTcLUOXcLUOcLUOPcLOTcLOXcLOcLOPcLEXcLEcLEPcLUTcLUXcLUcLUPcLURXcLURcLYTcLYXcLYcLYPcLYRXcLYRcGITcGIXcGIcGIP",
  "cGIETcGIEXcGIEcGIEPcGATcGAXcGAcGAPcGUOTcGUOXcGUOcGUOPcGOTcGOXcGOcGOPcGETcGEXcGEcGEPcGUTcGUXcGUcGUPcGURXcGURcKIT",
  "cKIXcKIcKIPcKIEXcKIEcKIEPcKATcKAXcKAcKAPcKUOXcKUOcKUOPcKOTcKOXcKOcKOPcKETcKEXcKEcKEPcKUTcKUXcKUcKUPcKURXcKUR",
  "cGGITcGGIXcGGIcGGIEXcGGIEcGGIEPcGGATcGGAXcGGAcGGAPcGGUOTcGGUOXcGGUOcGGUOPcGGOTcGGOXcGGOcGGOPcGGETcGGEXcGGEcGGEP",
  "cGGUTcGGUXcGGUcGGUPcGGURXcGGURcMGIEXcMGIEcMGATcMGAXcMGAcMGAPcMGUOXcMGUOcMGUOPcMGOTcMGOXcMGOcMGOPcMGEXcMGEcMGEP",
  "cMGUTcMGUXcMGUcMGUPcMGURXcMGURcHXITcHXIXcHXIcHXIPcHXIETcHXIEXcHXIEcHXIEPcHXATcHXAXcHXAcHXAPcHXUOTcHXUOXcHXUO",
  "cHXUOPcHXOTcHXOXcHXOcHXOPcHXEXcHXEcHXEPcNGIEXcNGIEcNGIEPcNGATcNGAXcNGAcNGAPcNGUOTcNGUOXcNGUOcNGOTcNGOXcNGOcNGOP",
  "cNGEXcNGEcNGEPcHITcHIEXcHIEcHATcHAXcHAcHAPcHUOTcHUOXcHUOcHUOPcHOTcHOXcHOcHOPcHEXcHEcHEPcWATcWAXcWAcWAPcWUOXcWUO",
  "cWUOPcWOXcWOcWOPcWEXcWEcWEPcZITcZIXcZIcZIPcZIEXcZIEcZIEPcZATcZAXcZAcZAPcZUOXcZUOcZUOPcZOTcZOXcZOcZOPcZEXcZEcZEP",
  "cZUTcZUXcZUcZUPcZURXcZURcZYTcZYXcZYcZYPcZYRXcZYRcCITcCIXcCIcCIPcCIETcCIEXcCIEcCIEPcCATcCAXcCAcCAPcCUOXcCUOcCUOP",
  "cCOTcCOXcCOcCOPcCEXcCEcCEPcCUTcCUXcCUcCUPcCURXcCURcCYTcCYXcCYcCYPcCYRXcCYRcZZITcZZIXcZZIcZZIPcZZIETcZZIEXcZZIE",
  "cZZIEPcZZATcZZAXcZZAcZZAPcZZOXcZZOcZZOPcZZEXcZZEcZZEPcZZUXcZZUcZZUPcZZURXcZZURcZZYTcZZYXcZZYcZZYPcZZYRXcZZYR",
  "cNZITcNZIXcNZIcNZIPcNZIEXcNZIEcNZIEPcNZATcNZAXcNZAcNZAPcNZUOXcNZUOcNZOXcNZOPcNZEXcNZEcNZUXcNZUcNZUPcNZURXcNZUR",
  "cNZYTcNZYXcNZYcNZYPcNZYRXcNZYRcSITcSIXcSIcSIPcSIEXcSIEcSIEPcSATcSAXcSAcSAPcSUOXcSUOcSUOPcSOTcSOXcSOcSOPcSEXcSE",
  "cSEPcSUTcSUXcSUcSUPcSURXcSURcSYTcSYXcSYcSYPcSYRXcSYRcSSITcSSIXcSSIcSSIPcSSIEXcSSIEcSSIEPcSSATcSSAXcSSAcSSAPcSSOT",
  "cSSOXcSSOcSSOPcSSEXcSSEcSSEPcSSUTcSSUXcSSUcSSUPcSSYTcSSYXcSSYcSSYPcSSYRXcSSYRcZHATcZHAXcZHAcZHAPcZHUOXcZHUO",
  "cZHUOPcZHOTcZHOXcZHOcZHOPcZHETcZHEXcZHEcZHEPcZHUTcZHUXcZHUcZHUPcZHURXcZHURcZHYTcZHYXcZHYcZHYPcZHYRXcZHYRcCHAT",
  "cCHAXcCHAcCHAPcCHUOTcCHUOXcCHUOcCHUOPcCHOTcCHOXcCHOcCHOPcCHETcCHEXcCHEcCHEPcCHUXcCHUcCHUPcCHURXcCHURcCHYTcCHYX",
  "cCHYcCHYPcCHYRXcCHYRcRRAXcRRAcRRUOXcRRUOcRROTcRROXcRROcRROPcRRETcRREXcRREcRREPcRRUTcRRUXcRRUcRRUPcRRURXcRRUR",
  "cRRYTcRRYXcRRYcRRYPcRRYRXcRRYRcNRATcNRAXcNRAcNRAPcNROXcNROcNROPcNRETcNREXcNREcNREPcNRUTcNRUXcNRUcNRUPcNRURXcNRUR",
  "cNRYTcNRYXcNRYcNRYPcNRYRXcNRYRcSHATcSHAXcSHAcSHAPcSHUOXcSHUOcSHUOPcSHOTcSHOXcSHOcSHOPcSHETcSHEXcSHEcSHEPcSHUT",
  "cSHUXcSHUcSHUPcSHURXcSHURcSHYTcSHYXcSHYcSHYPcSHYRXcSHYRcRATcRAXcRAcRAPcRUOXcRUOcRUOPcROTcROXcROcROPcREXcREcREP",
  "cRUTcRUXcRUcRUPcRURXcRURcRYTcRYXcRYcRYPcRYRXcRYRcJITcJIXcJIcJIPcJIETcJIEXcJIEcJIEPcJUOTcJUOXcJUOcJUOPcJOTcJOXcJO",
  "cJOPcJUTcJUXcJUcJUPcJURXcJURcJYTcJYXcJYcJYPcJYRXcJYRcQITcQIXcQIcQIPcQIETcQIEXcQIEcQIEPcQUOTcQUOXcQUOcQUOPcQOT",
  "cQOXcQOcQOPcQUTcQUXcQUcQUPcQURXcQURcQYTcQYXcQYcQYPcQYRXcQYRcJJITcJJIXcJJIcJJIPcJJIETcJJIEXcJJIEcJJIEPcJJUOXcJJUO",
  "cJJUOPcJJOTcJJOXcJJOcJJOPcJJUTcJJUXcJJUcJJUPcJJURXcJJURcJJYTcJJYXcJJYcJJYPcNJITcNJIXcNJIcNJIPcNJIETcNJIEXcNJIE",
  "cNJIEPcNJUOXcNJUOcNJOTcNJOXcNJOcNJOPcNJUXcNJUcNJUPcNJURXcNJURcNJYTcNJYXcNJYcNJYPcNJYRXcNJYRcNYITcNYIXcNYIcNYIP",
  "cNYIETcNYIEXcNYIEcNYIEPcNYUOXcNYUOcNYUOPcNYOTcNYOXcNYOcNYOPcNYUTcNYUXcNYUcNYUPcXITcXIXcXIcXIPcXIETcXIEXcXIEcXIEP",
  "cXUOXcXUOcXOTcXOXcXOcXOPcXYTcXYXcXYcXYPcXYRXcXYRcYITcYIXcYIcYIPcYIETcYIEXcYIEcYIEPcYUOTcYUOXcYUOcYUOPcYOTcYOXcYO",
  "cYOPcYUTcYUXcYUcYUPcYURXcYURcYYTcYYXcYYcYYPcYYRXcYYR",
  "A490 bRADICAL QOTcLIcKITcNYIPcCYPcSSIcGGOPcGEPcMIcHXITcLYRcBBUTcMOPcYOcPUTcHXUOcTATcGAcZUPcCYTcDDURcBURcGGUO",
  "cNYOPcTUcOPcJJUTcZOTcPYTcHMOcYITcVURcSHYcVEPcZAcJOcNZUPcJJYcGOTcJJIEcWOcDUcSHURcLIEcCYcCUOPcCIPcHXOPcSHATcZUR",
  "cSHOPcCHEcZZIETcNBIEcKE",
  "A4D0 aLISU LETTER BAcPAcPHAcDAcTAcTHAcGAcKAcKHAcJAcCAcCHAcDZAcTSAcTSHAcMAcNAcLAcSAcZHAcZAcNGAcHAcXAcHHAcFAcWA",
  "cSHAcYAcGHAcAcAEcEcEUcIcOcUcUEcUHcOEcTONE MYA TIdNA POdMYA CYAeBOeNAeJEUbPUNCTUATION COMMAcFULL STOP",
  "aVAI SYLLABLE EEcEENcHEEcWEEcWEENcPEEcBHEEcBEEcMBEEcKPEEcMGBEEcGBEEcFEEcVEEcTEEcTHEEcDHEEcDHHEEcLEEcREEcDEEcNDEE",
  "cSEEcSHEEcZEEcZHEEcCEEcJEEcNJEEcYEEcKEEcNGGEEcGEEcMEEcNEEcNYEEcIcINcHIcHINcWIcWINcPIcBHIcBIcMBIcKPIcMGBIcGBIcFI",
  "cVIcTIcTHIcDHIcDHHIcLIcRIcDIcNDIcSIcSHIcZIcZHIcCIcJIcNJIcYIcKIcNGGIcGIcMIcNIcNYIcAcANcNGANcHAcHANcWAcWANcPAcBHA",
  "cBAcMBAcKPAcKPANcMGBAcGBAcFAcVAcTAcTHAcDHAcDHHAcLAcRAcDAcNDAcSAcSHAcZAcZHAcCAcJAcNJAcYAcKAcKANcNGGAcGAcMAcNAcNYA",
  "cOOcOONcHOOcWOOcWOONcPOOcBHOOcBOOcMBOOcKPOOcMGBOOcGBOOcFOOcVOOcTOOcTHOOcDHOOcDHHOOcLOOcROOcDOOcNDOOcSOOcSHOOcZOO",
  "cZHOOcCOOcJOOcNJOOcYOOcKOOcNGGOOcGOOcMOOcNOOcNYOOcUcUNcHUcHUNcWUcWUNcPUcBHUcBUcMBUcKPUcMGBUcGBUcFUcVUcTUcTHUcDHU",
  "cDHHUcLUcRUcDUcNDUcSUcSHUcZUcZHUcCUcJUcNJUcYUcKUcNGGUcGUcMUcNUcNYUcOcONcNGONcHOcHONcWOcWONcPOcBHOcBOcMBOcKPO",
  "cMGBOcGBOcGBONcFOcVOcTOcTHOcDHOcDHHOcLOcROcDOcNDOcSOcSHOcZOcZHOcCOcJOcNJOcYOcKOcNGGOcGOcMOcNOcNYOcEcENcNGENcHE",
  "cHENcWEcWENcPEcBHEcBEcMBEcKPEcKPENcMGBEcGBEcGBENcFEcVEcTEcTHEcDHEcDHHEcLEcREcDEcNDEcSEcSHEcZEcZHEcCEcJEcNJEcYE",
  "cKEcNGGEcNGGENcGEcGENcMEcNEcNYEcNGcLENGTHENERbCOMMAbFULL STOPbQUESTION MARKbSYLLABLE NDOLE FAdKAdSOO",
  "bSYMBOL FEENGcKEENGcTINGcNIIcBANGcFAAcTAAcDANGcDOONGcKUNGcTONGcDO-OcJONGbDIGIT ZEROcONEcTWOcTHREEcFOURcFIVEcSIX",
  "cSEVENcEIGHTcNINEbSYLLABLE NDOLE MAdDO",
  "A640 aCYRILLIC CAPITAL LETTER ZEMLYA~bCAPITAL LETTER DZELO~bCAPITAL LETTER REVERSED DZE~bCAPITAL LETTER IOTA~",
  "bCAPITAL LETTER DJERV~bCAPITAL LETTER MONOGRAPH UK~bCAPITAL LETTER BROAD OMEGA~bCAPITAL LETTER NEUTRAL YER~",
  "bCAPITAL LETTER YERU WITH BACK YER~bCAPITAL LETTER IOTIFIED YAT~bCAPITAL LETTER REVERSED YU~",
  "bCAPITAL LETTER IOTIFIED A~bCAPITAL LETTER CLOSED LITTLE YUS~bCAPITAL LETTER BLENDED YUS~",
  "bCAPITAL LETTER IOTIFIED CLOSED LITTLE YUS~bCAPITAL LETTER YN~bCAPITAL LETTER REVERSED TSE~",
  "bCAPITAL LETTER SOFT DE~bCAPITAL LETTER SOFT EL~bCAPITAL LETTER SOFT EM~bCAPITAL LETTER MONOCULAR O~",
  "bCAPITAL LETTER BINOCULAR O~bCAPITAL LETTER DOUBLE MONOCULAR O~bLETTER MULTIOCULAR OaCOMBINING CYRILLIC VZMET",
  "cTEN MILLIONS SIGNcHUNDRED MILLIONS SIGNcTHOUSAND MILLIONS SIGNaSLAVONIC ASTERISK",
  "aCOMBINING CYRILLIC LETTER UKRAINIAN IEdIdYIdUdHARD SIGNdYERUdSOFT SIGNdOMEGAcKAVYKAcPAYEROKaCYRILLIC KAVYKA",
  "bPAYEROKbCAPITAL LETTER DWE~bCAPITAL LETTER DZWE~bCAPITAL LETTER ZHWE~bCAPITAL LETTER CCHE~bCAPITAL LETTER DZZE~",
  "bCAPITAL LETTER TE WITH MIDDLE HOOK~bCAPITAL LETTER TWE~bCAPITAL LETTER TSWE~bCAPITAL LETTER TSSE~",
  "bCAPITAL LETTER TCHE~bCAPITAL LETTER HWE~bCAPITAL LETTER SHWE~bCAPITAL LETTER DOUBLE O~bCAPITAL LETTER CROSSED O",
  "~aMODIFIER LETTER CYRILLIC HARD SIGNdSOFT SIGNaCOMBINING CYRILLIC LETTER EFdIOTIFIED EaBAMUM LETTER AcKAcUcKUcEE",
  "cREEcTAEcOcNYIcIcLAcPAcRIIcRIEEcLEEEEcMEEEEcTAAcNDAAcNJAEMcMcSUUcMUcSHIIcSIcSHEUXcSEUXcKYEEcKETcNUAEcNUcNJUAE",
  "cYOQcSHUcYUQcYAcNSHAcKEUXcPEUXcNJEEcNTEEcPUEcWUEcPEEcFEEcRUcLUcMIcNIcREUXcRAEcKENcNGKWAENcNGGAcNGAcSHOcPUAEcFU",
  "cFOMcWAcNAcLIcPIcLOQcKOcMBENcRENcMENcMAcTIcKIcMOcMBAAcTETcKPAcTENcNTUUcSAMBAcFAAMAEcKOVUUcKOGHOM",
  "bCOMBINING MARK KOQNDONdTUKWENTISbNJAEMLIbFULL STOPbCOLONbCOMMAbSEMICOLONbQUESTION MARK",
  "A700 aMODIFIER LETTER CHINESE TONE YIN PINGeYANG PINGeYIN SHANGeYANG SHANGeYIN QUeYANG QUeYIN RUeYANG RU",
  "cEXTRA-HIGH DOTTED TONE BARcHIGH DOTTED TONE BARcMID DOTTED TONE BARcLOW DOTTED TONE BAR",
  "cEXTRA-LOW DOTTED TONE BARcEXTRA-HIGH DOTTED LEFT-STEM TONE BARcHIGH DOTTED LEFT-STEM TONE BAR",
  "cMID DOTTED LEFT-STEM TONE BARcLOW DOTTED LEFT-STEM TONE BARcEXTRA-LOW DOTTED LEFT-STEM TONE BAR",
  "cEXTRA-HIGH LEFT-STEM TONE BARcHIGH LEFT-STEM TONE BARcMID LEFT-STEM TONE BARcLOW LEFT-STEM TONE BAR",
  "cEXTRA-LOW LEFT-STEM TONE BARcDOT VERTICAL BARdSLASHdHORIZONTAL BARcLOWER RIGHT CORNER ANGLEcRAISED UP ARROW",
  "dDOWN ARROWdEXCLAMATION MARKdINVERTED EXCLAMATION MARKcLOW INVERTED EXCLAMATION MARKcSTRESS AND HIGH TONE",
  "eLOW TONEaLATIN CAPITAL LETTER EGYPTOLOGICAL ALEF~bCAPITAL LETTER EGYPTOLOGICAL AIN~bCAPITAL LETTER HENG~",
  "bCAPITAL LETTER TZ~bCAPITAL LETTER TRESILLO~bCAPITAL LETTER CUATRILLO~bCAPITAL LETTER CUATRILLO WITH COMMA~",
  "bLETTER SMALL CAPITAL FeSbCAPITAL LETTER AA~bCAPITAL LETTER AO~bCAPITAL LETTER AU~bCAPITAL LETTER AV~",
  "bCAPITAL LETTER AV WITH HORIZONTAL BAR~bCAPITAL LETTER AY~bCAPITAL LETTER REVERSED C WITH DOT~",
  "bCAPITAL LETTER K WITH STROKE~bCAPITAL LETTER K WITH DIAGONAL STROKE~",
  "bCAPITAL LETTER K WITH STROKE AND DIAGONAL STROKE~bCAPITAL LETTER BROKEN L~bCAPITAL LETTER L WITH HIGH STROKE~",
  "bCAPITAL LETTER O WITH LONG STROKE OVERLAY~bCAPITAL LETTER O WITH LOOP~bCAPITAL LETTER OO~",
  "bCAPITAL LETTER P WITH STROKE THROUGH DESCENDER~bCAPITAL LETTER P WITH FLOURISH~",
  "bCAPITAL LETTER P WITH SQUIRREL TAIL~bCAPITAL LETTER Q WITH STROKE THROUGH DESCENDER~",
  "bCAPITAL LETTER Q WITH DIAGONAL STROKE~bCAPITAL LETTER R ROTUNDA~bCAPITAL LETTER RUM ROTUNDA~",
  "bCAPITAL LETTER V WITH DIAGONAL STROKE~bCAPITAL LETTER VY~bCAPITAL LETTER VISIGOTHIC Z~",
  "bCAPITAL LETTER THORN WITH STROKE~bCAPITAL LETTER THORN WITH STROKE THROUGH DESCENDER~bCAPITAL LETTER VEND~",
  "bCAPITAL LETTER ET~bCAPITAL LETTER IS~bCAPITAL LETTER CON~aMODIFIER LETTER USaLATIN SMALL LETTER DUMdLUMdMUMdNUM",
  "dRUMbLETTER SMALL CAPITAL RUMbSMALL LETTER TUMdUMbCAPITAL LETTER INSULAR D~bCAPITAL LETTER INSULAR F~",
  "bCAPITAL LETTER INSULAR GdTURNED INSULAR G~bCAPITAL LETTER TURNED L~bCAPITAL LETTER INSULAR R~",
  "bCAPITAL LETTER INSULAR S~bCAPITAL LETTER INSULAR T~aMODIFIER LETTER LOW CIRCUMFLEX ACCENTcCOLON",
  "cSHORT EQUALS SIGNaLATIN CAPITAL LETTER SALTILLO~bCAPITAL LETTER TURNED H",
  "bSMALL LETTER L WITH RETROFLEX HOOK AND BELTbLETTER SINOLOGICAL DOTbCAPITAL LETTER N WITH DESCENDER~",
  "bCAPITAL LETTER C WITH BAR~fPALATAL HOOKdH WITH PALATAL HOOKbCAPITAL LETTER B WITH FLOURISH~",
  "bCAPITAL LETTER F WITH STROKE~bCAPITAL LETTER VOLAPUK AE~bCAPITAL LETTER VOLAPUK OE~bCAPITAL LETTER VOLAPUK UE~",
  "bCAPITAL LETTER G WITH OBLIQUE STROKE~bCAPITAL LETTER K WITH OBLIQUE STROKE~",
  "bCAPITAL LETTER N WITH OBLIQUE STROKE~bCAPITAL LETTER R WITH OBLIQUE STROKE~",
  "bCAPITAL LETTER S WITH OBLIQUE STROKE~bCAPITAL LETTER H WITH HOOKdREVERSED OPEN EdSCRIPT GdL WITH BELT",
  "dSMALL CAPITAL IbLETTER SMALL CAPITAL QbCAPITAL LETTER TURNED KeTdJ WITH CROSSED-TAILdCHIdBETA~",
  "bCAPITAL LETTER OMEGA~bCAPITAL LETTER U WITH STROKE~bCAPITAL LETTER GLOTTAL A~bCAPITAL LETTER GLOTTAL I~",
  "bCAPITAL LETTER GLOTTAL U~bCAPITAL LETTER OLD POLISH O~bCAPITAL LETTER ANGLICANA W~",
  "bCAPITAL LETTER C WITH PALATAL HOOKdS WITH HOOKdZ WITH PALATAL HOOKdD WITH SHORT STROKE OVERLAY~",
  "bCAPITAL LETTER S WITH SHORT STROKE OVERLAY~",
  "A7D0 bCAPITAL LETTER CLOSED INSULAR G~",
  "A7D3 dDOUBLE THORN",
  "A7D5 eWYNNbCAPITAL LETTER MIDDLE SCOTS S~bCAPITAL LETTER SIGMOID S~",
  "A7F2 aMODIFIER LETTER CAPITAL CdFdQaLATIN CAPITAL LETTER REVERSED HALF H~bEPIGRAPHIC LETTER SIDEWAYS I",
  "aMODIFIER LETTER CAPITAL H WITH STROKEcSMALL LIGATURE OEaLATIN LETTER SMALL CAPITAL TURNED M",
  "bEPIGRAPHIC LETTER REVERSED FePdINVERTED MdI LONGAdARCHAIC MaSYLOTI NAGRI LETTER AdIcSIGN DVISVARAcLETTER UdEdO",
  "cSIGN HASANTAcLETTER KOdKHOdGOdGHOcSIGN ANUSVARAcLETTER COdCHOdJOdJHOdTTOdTTHOdDDOdDDHOdTOdTHOdDOdDHOdNOdPOdPHO",
  "dBOdBHOdMOdROdLOdRROdSOdHOcVOWEL SIGN AeIeUeEeOOcPOETRY MARK-1+++cSIGN ALTERNATE HASANTA",
  "A830 aNORTH INDIC FRACTION ONE QUARTEReHALFdTHREE QUARTERSdONE SIXTEENTHeEIGHTHdTHREE SIXTEENTHScQUARTER MARK",
  "cPLACEHOLDER MARKcRUPEE MARKcQUANTITY MARK",
  "A840 aPHAGS-PA LETTER KAcKHAcGAcNGAcCAcCHAcJAcNYAcTAcTHAcDAcNAcPAcPHAcBAcMAcTSAcTSHAcDZAcWAcZHAcZAcSMALL AcYAcRA",
  "cLAcSHAcSAcHAcAcIcUcEcOcQAcXAcFAcGGAcEEbSUBJOINED LETTER WAdYAbLETTER TTAcTTHAcDDAcNNAcALTERNATE YA",
  "cVOICELESS SHAcVOICED HAcASPIRATED FAbSUBJOINED LETTER RAbSUPERFIXED LETTER RAbLETTER CANDRABINDU",
  "bSINGLE HEAD MARKbDOUBLE HEAD MARKbMARK SHADcDOUBLE SHAD",
  "A880 aSAURASHTRA SIGN ANUSVARAcVISARGAbLETTER AcAAcIcIIcUcUUcVOCALIC RdRRdLdLLcEcEEcAIcOcOOcAUcKAcKHAcGAcGHAcNGA",
  "cCAcCHAcJAcJHAcNYAcTTAcTTHAcDDAcDDHAcNNAcTAcTHAcDAcDHAcNAcPAcPHAcBAcBHAcMAcYAcRAcLAcVAcSHAcSSAcSAcHAcLLA",
  "bCONSONANT SIGN HAARUbVOWEL SIGN AAdIdIIdUdUUdVOCALIC ReRReLeLLdEdEEdAIdOdOOdAUbSIGN VIRAMAcCANDRABINDU",
  "A8CE bDANDAbDOUBLE DANDAbDIGIT ZEROcONEcTWOcTHREEcFOURcFIVEcSIXcSEVENcEIGHTcNINE",
  "A8E0 aCOMBINING DEVANAGARI DIGIT ZEROdONEdTWOdTHREEdFOURdFIVEdSIXdSEVENdEIGHTdNINEcLETTER AdUdKAdNAdPAdRAdVI",
  "cSIGN AVAGRAHAaDEVANAGARI SIGN SPACING CANDRABINDUcCANDRABINDU VIRAMAcDOUBLE CANDRABINDU VIRAMAcCANDRABINDU TWO",
  "dTHREEdAVAGRAHAcPUSHPIKAbGAP FILLERbCARETbHEADSTROKEbSIGN SIDDHAMbJAIN OMbLETTER AYbVOWEL SIGN AY",
  "aKAYAH LI DIGIT ZEROdONEdTWOdTHREEdFOURdFIVEdSIXdSEVENdEIGHTdNINEcLETTER KAdKHAdGAdNGAdSAdSHAdZAdNYAdTAdHTAdNA",
  "dPAdPHAdMAdDAdBAdRAdYAdLAdWAdTHAdHAdVAdCAdAdOEdIdOOcVOWEL UEdEdUdEEdOcTONE PLOPHUdCALYAePLOPHUcSIGN CWIdSHYA",
  "aREJANG LETTER KAcGAcNGAcTAcDAcNAcPAcBAcMAcCAcJAcNYAcSAcRAcLAcYAcWAcHAcMBAcNGGAcNDAcNYJAcAbVOWEL SIGN IdUdEdAIdO",
  "dAUdEUdEAbCONSONANT SIGN NGdNdRdHbVIRAMA",
  "A95F bSECTION MARKaHANGUL CHOSEONG TIKEUT-MIEUMcTIKEUT-PIEUPcTIKEUT-SIOScTIKEUT-CIEUCcRIEUL-KIYEOK",
  "cRIEUL-SSANGKIYEOKcRIEUL-TIKEUTcRIEUL-SSANGTIKEUTcRIEUL-MIEUMcRIEUL-PIEUPcRIEUL-SSANGPIEUPcRIEUL-KAPYEOUNPIEUP",
  "cRIEUL-SIOScRIEUL-CIEUCcRIEUL-KHIEUKHcMIEUM-KIYEOKcMIEUM-TIKEUTcMIEUM-SIOScPIEUP-SIOS-THIEUTHcPIEUP-KHIEUKH",
  "cPIEUP-HIEUHcSSANGSIOS-PIEUPcIEUNG-RIEULcIEUNG-HIEUHcSSANGCIEUC-HIEUHcSSANGTHIEUTHcPHIEUPH-HIEUHcHIEUH-SIOS",
  "cSSANGYEORINHIEUH",
  "A980 aJAVANESE SIGN PANYANGGAcCECAKcLAYARcWIGNYANbLETTER AcI KAWIcIcIIcUcPA CEREKcNGA LELETeRASWADIcEcAIcOcKA",
  "dSASAKdMURDAcGAdMURDAcNGAcCAdMURDAcJAcNYA MURDAcJA MAHAPRANAcNYAcTTAdMAHAPRANAcDDAdMAHAPRANAcNA MURDAcTAdMURDA",
  "cDAdMAHAPRANAcNAcPAdMURDAcBAdMURDAcMAcYAcRAdAGUNGcLAcWAcSA MURDAdMAHAPRANAcSAcHAbSIGN CECAK TELU",
  "bVOWEL SIGN TARUNGdTOLONGdWULUeMELIKdSUKUeMENDUTdTALINGdDIRGA MUREdPEPETbCONSONANT SIGN KERETdPENGKALdCAKRA",
  "bPANGKONbLEFT RERENGGANbRIGHT RERENGGANbPADA ANDAPcMADYAcLUHURcWINDUcPANGKATcLINGSAcLUNGSIcADEGdADEGcPISELEH",
  "bTURNED PADA PISELEH",
  "A9CF bPANGRANGKEPbDIGIT ZEROcONEcTWOcTHREEcFOURcFIVEcSIXcSEVENcEIGHTcNINE",
  "A9DE bPADA TIRTA TUMETEScISEN-ISENaMYANMAR LETTER SHAN GHAdCHAdJHAdNNAdBHAbSIGN SHAN SAW",
  "bMODIFIER LETTER SHAN REDUPLICATIONbLETTER TAI LAING NYAeFAeGAeGHAeJAeJHAeDDAeDDHAeNNAbTAI LAING DIGIT ZEROeONE",
  "eTWOeTHREEeFOUReFIVEeSIXeSEVENeEIGHTeNINEbLETTER TAI LAING LLAeDAeDHAeBAeBHA",
  "AA00 aCHAM LETTER AcIcUcEcAIcOcKAcKHAcGAcGHAcNGUEcNGAcCHAcCHHAcJAcJHAcNHUEcNHAcNHJAcTAcTHAcDAcDHAcNUEcNAcDDAcPA",
  "cPPAcPHAcBAcBHAcMUEcMAcBBAcYAcRAcLAcVAcSSAcSAcHAbVOWEL SIGN AAdIdIIdEIdUdOEdOdAIdAUdUEbCONSONANT SIGN YAdRAdLA",
  "dWA",
  "AA40 bLETTER FINAL KdGdNGbCONSONANT SIGN FINAL NGbLETTER FINAL CHdTdNdPdYdRdLdSSbCONSONANT SIGN FINAL MeH",
  "AA50 bDIGIT ZEROcONEcTWOcTHREEcFOURcFIVEcSIXcSEVENcEIGHTcNINE",
  "AA5C bPUNCTUATION SPIRALcDANDAcDOUBLE DANDAcTRIPLE DANDAaMYANMAR LETTER KHAMTI GAdCAdCHAdJAdJHAdNYAdTTAdTTHAdDDA",
  "dDDHAdDHAdNAdSAdHAdHHAdFAbMODIFIER LETTER KHAMTI REDUPLICATIONbLETTER KHAMTI XAdZAdRAbLOGOGRAM KHAMTI OAYdQNdHM",
  "bSYMBOL AITON EXCLAMATIONdONEdTWObLETTER AITON RAbSIGN PAO KAREN TONEcTAI LAING TONE-2eTONE-5",
  "bLETTER SHWE PALAUNG CHAeSHAaTAI VIET LETTER LOW KOdHIGH KOdLOW KHOdHIGH KHOdLOW KHHOdHIGH KHHOdLOW GOdHIGH GO",
  "dLOW NGOdHIGH NGOdLOW COdHIGH COdLOW CHOdHIGH CHOdLOW SOdHIGH SOdLOW NYOdHIGH NYOdLOW DOdHIGH DOdLOW TOdHIGH TO",
  "dLOW THOdHIGH THOdLOW NOdHIGH NOdLOW BOdHIGH BOdLOW POdHIGH POdLOW PHOdHIGH PHOdLOW FOdHIGH FOdLOW MOdHIGH MO",
  "dLOW YOdHIGH YOdLOW ROdHIGH ROdLOW LOdHIGH LOdLOW VOdHIGH VOdLOW HOdHIGH HOdLOW OdHIGH OcMAI KANGcVOWEL AAdIdUE",
  "dUdEdOcMAI KHITcVOWEL IAdUEAdUAdAUEdAYdANdAMcTONE MAI EKeNUENGeTHOeSONG",
  "AADB cSYMBOL KONdNUENGdSAMdHO HOIdKOI KOIaMEETEI MAYEK LETTER EdOdCHAdNYAdTTAdTTHAdDDAdDDHAdNNAdSHAdSSA",
  "cVOWEL SIGN IIeUUeAAIeAUeAAUcCHEIKHANcAHANG KHUDAMcANJIcSYLLABLE REPETITION MARKcWORD REPETITION MARK",
  "cVOWEL SIGN VISARGAcVIRAMA",
  "AB01 aETHIOPIC SYLLABLE TTHUcTTHIcTTHAAcTTHEEcTTHEcTTHO",
  "AB09 cDDHUcDDHIcDDHAAcDDHEEcDDHEcDDHO",
  "AB11 cDZUcDZIcDZAAcDZEEcDZEcDZO",
  "AB20 cCCHHAcCCHHUcCCHHIcCCHHAAcCCHHEEcCCHHEcCCHHO",
  "AB28 cBBAcBBUcBBIcBBAAcBBEEcBBEcBBO",
  "AB30 aLATIN SMALL LETTER BARRED ALPHAdA REVERSED-SCHWAdBLACKLETTER EdBARRED EdE WITH FLOURISHdLENIS F",
  "dSCRIPT G WITH CROSSED-TAILdL WITH INVERTED LAZY SfDOUBLE MIDDLE TILDEfMIDDLE RINGdM WITH CROSSED-TAIL",
  "dN WITH CROSSED-TAILdENG WITH CROSSED-TAILdBLACKLETTER OfWITH STROKEdOPEN O WITH STROKEdINVERTED OE",
  "dTURNED OE WITH STROKEgHORIZONTAL STROKEeO OPEN-OgWITH STROKEdSTIRRUP RbLETTER SMALL CAPITAL R WITH RIGHT LEG",
  "bSMALL LETTER R WITHOUT HANDLEdDOUBLE RdR WITH CROSSED-TAILdDOUBLE R WITH CROSSED-TAILdSCRIPT RfWITH RING",
  "dBASELINE ESHdU WITH SHORT RIGHT LEGeBAR WITH SHORT RIGHT LEGdUIdTURNED UIdU WITH LEFT HOOKdCHI",
  "eWITH LOW RIGHT RINGgLEFT SERIFdX WITH LOW RIGHT RINGfLONG LEFT LEGiAND LOW RIGHT RINGiWITH SERIF",
  "dY WITH SHORT RIGHT LEGaMODIFIER BREVE WITH INVERTED BREVEbLETTER SMALL HENGdL WITH INVERTED LAZY SfMIDDLE TILDE",
  "dU WITH LEFT HOOKaLATIN SMALL LETTER SAKHA YATdIOTIFIED EdOPEN OEdUOdINVERTED ALPHA",
  "aGREEK LETTER SMALL CAPITAL OMEGAaLATIN SMALL LETTER DZ DIGRAPH WITH RETROFLEX HOOK",
  "dTS DIGRAPH WITH RETROFLEX HOOKdTURNED R WITH MIDDLE TILDEaMODIFIER LETTER SMALL TURNED WcLEFT TACKcRIGHT TACK",
  "AB70 aCHEROKEE SMALL LETTER AdEdIdOdUdVdGAdKAdGEdGIdGOdGUdGVdHAdHEdHIdHOdHUdHVdLAdLEdLIdLOdLUdLVdMAdMEdMIdMOdMU",
  "dNAdHNAdNAHdNEdNIdNOdNUdNVdQUAdQUEdQUIdQUOdQUUdQUVdSAdSdSEdSIdSOdSUdSVdDAdTAdDEdTEdDIdTIdDOdDUdDVdDLAdTLAdTLE",
  "dTLIdTLOdTLUdTLVdTSAdTSEdTSIdTSOdTSUdTSVdWAdWEdWIdWOdWUdWVdYAaMEETEI MAYEK LETTER KOKdSAMdLAIdMITdPAdNAdCHILdTIL",
  "dKHOUdNGOUdTHOUdWAIdYANGdHUKdUNdIdPHAMdATIYAdGOKdJHAMdRAIdBAdJILdDILdGHOUdDHOUdBHAMdKOK LONSUMdLAI LONSUM",
  "dMIT LONSUMdPA LONSUMdNA LONSUMdTIL LONSUMdNGOU LONSUMdI LONSUMcVOWEL SIGN ONAPeINAPeANAPeYENAPeSOUNAPeUNAP",
  "eCHEINAPeNUNGcCHEIKHEIcLUM IYEKcAPUN IYEK",
  "ABF0 cDIGIT ZEROdONEdTWOdTHREEdFOURdFIVEdSIXdSEVENdEIGHTdNINE",
  "D7B0 aHANGUL JUNGSEONG O-YEOcO-O-IcYO-AcYO-AEcYO-EOcU-YEOcU-I-IcYU-AEcYU-OcEU-AcEU-EOcEU-EcEU-OcI-YA-OcI-YAE",
  "cI-YEOcI-YEcI-O-IcI-YOcI-YUcI-IcARAEA-AcARAEA-E",
  "D7CB bJONGSEONG NIEUN-RIEULcNIEUN-CHIEUCHcSSANGTIKEUTcSSANGTIKEUT-PIEUPcTIKEUT-PIEUPcTIKEUT-SIOS",
  "cTIKEUT-SIOS-KIYEOKcTIKEUT-CIEUCcTIKEUT-CHIEUCHcTIKEUT-THIEUTHcRIEUL-SSANGKIYEOKcRIEUL-KIYEOK-HIEUH",
  "cSSANGRIEUL-KHIEUKHcRIEUL-MIEUM-HIEUHcRIEUL-PIEUP-TIKEUTcRIEUL-PIEUP-PHIEUPHcRIEUL-YESIEUNG",
  "cRIEUL-YEORINHIEUH-HIEUHcKAPYEOUNRIEULcMIEUM-NIEUNcMIEUM-SSANGNIEUNcSSANGMIEUMcMIEUM-PIEUP-SIOScMIEUM-CIEUC",
  "cPIEUP-TIKEUTcPIEUP-RIEUL-PHIEUPHcPIEUP-MIEUMcSSANGPIEUPcPIEUP-SIOS-TIKEUTcPIEUP-CIEUCcPIEUP-CHIEUCHcSIOS-MIEUM",
  "cSIOS-KAPYEOUNPIEUPcSSANGSIOS-KIYEOKcSSANGSIOS-TIKEUTcSIOS-PANSIOScSIOS-CIEUCcSIOS-CHIEUCHcSIOS-THIEUTH",
  "cSIOS-HIEUHcPANSIOS-PIEUPcPANSIOS-KAPYEOUNPIEUPcYESIEUNG-MIEUMcYESIEUNG-HIEUHcCIEUC-PIEUPcCIEUC-SSANGPIEUP",
  "cSSANGCIEUCcPHIEUPH-SIOScPHIEUPH-THIEUTH",
  "FB00 aLATIN SMALL LIGATURE FFdFIdFLdFFIdFFLdLONG S TdST",
  "FB13 aARMENIAN SMALL LIGATURE MEN NOWeECHeINIdVEW NOWdMEN XEH",
  "FB1D aHEBREW LETTER YOD WITH HIRIQbPOINT JUDEO-SPANISH VARIKAbLIGATURE YIDDISH YOD YOD PATAH",
  "bLETTER ALTERNATIVE AYINcWIDE ALEFdDALETdHEdKAFdLAMEDdFINAL MEMdRESHdTAVcALTERNATIVE PLUS SIGN",
  "cSHIN WITH SHIN DOTeSIN DOTeDAGESH AND SHIN DOTgSIN DOTcALEF WITH PATAHeQAMATSeMAPIQcBET WITH DAGESH",
  "cGIMEL WITH DAGESHcDALET WITH DAGESHcHE WITH MAPIQcVAV WITH DAGESHcZAYIN WITH DAGESH",
  "FB38 cTET WITH DAGESHcYOD WITH DAGESHcFINAL KAF WITH DAGESHcKAF WITH DAGESHcLAMED WITH DAGESH",
  "FB3E cMEM WITH DAGESH",
  "FB40 cNUN WITH DAGESHcSAMEKH WITH DAGESH",
  "FB43 cFINAL PE WITH DAGESHcPE WITH DAGESH",
  "FB46 cTSADI WITH DAGESHcQOF WITH DAGESHcRESH WITH DAGESHcSHIN WITH DAGESHcTAV WITH DAGESHcVAV WITH HOLAM",
  "cBET WITH RAFEcKAF WITH RAFEcPE WITH RAFEbLIGATURE ALEF LAMEDaARABIC LETTER ALEF WASLA ISOLATED FORMeFINAL FORM",
  "cBEEH ISOLATED FORMdFINAL FORMdINITIAL FORMdMEDIAL FORMcPEH ISOLATED FORMdFINAL FORMdINITIAL FORMdMEDIAL FORM",
  "cBEHEH ISOLATED FORMdFINAL FORMdINITIAL FORMdMEDIAL FORMcTTEHEH ISOLATED FORMdFINAL FORMdINITIAL FORM",
  "dMEDIAL FORMcTEHEH ISOLATED FORMdFINAL FORMdINITIAL FORMdMEDIAL FORMcTTEH ISOLATED FORMdFINAL FORMdINITIAL FORM",
  "dMEDIAL FORMcVEH ISOLATED FORMdFINAL FORMdINITIAL FORMdMEDIAL FORMcPEHEH ISOLATED FORMdFINAL FORMdINITIAL FORM",
  "dMEDIAL FORMcDYEH ISOLATED FORMdFINAL FORMdINITIAL FORMdMEDIAL FORMcNYEH ISOLATED FORMdFINAL FORMdINITIAL FORM",
  "dMEDIAL FORMcTCHEH ISOLATED FORMdFINAL FORMdINITIAL FORMdMEDIAL FORMcTCHEHEH ISOLATED FORMdFINAL FORM",
  "dINITIAL FORMdMEDIAL FORMcDDAHAL ISOLATED FORMdFINAL FORMcDAHAL ISOLATED FORMdFINAL FORMcDUL ISOLATED FORM",
  "dFINAL FORMcDDAL ISOLATED FORMdFINAL FORMcJEH ISOLATED FORMdFINAL FORMcRREH ISOLATED FORMdFINAL FORM",
  "cKEHEH ISOLATED FORMdFINAL FORMdINITIAL FORMdMEDIAL FORMcGAF ISOLATED FORMdFINAL FORMdINITIAL FORMdMEDIAL FORM",
  "cGUEH ISOLATED FORMdFINAL FORMdINITIAL FORMdMEDIAL FORMcNGOEH ISOLATED FORMdFINAL FORMdINITIAL FORMdMEDIAL FORM",
  "cNOON GHUNNA ISOLATED FORMeFINAL FORMcRNOON ISOLATED FORMdFINAL FORMdINITIAL FORMdMEDIAL FORM",
  "cHEH WITH YEH ABOVE ISOLATED FORMgFINAL FORMdGOAL ISOLATED FORMeFINAL FORMeINITIAL FORMeMEDIAL FORM",
  "dDOACHASHMEE ISOLATED FORMeFINAL FORMeINITIAL FORMeMEDIAL FORMcYEH BARREE ISOLATED FORMeFINAL FORM",
  "eWITH HAMZA ABOVE ISOLATED FORMhFINAL FORMbSYMBOL DOT ABOVEdBELOWcTWO DOTS ABOVEeBELOWcTHREE DOTS ABOVEeBELOW",
  "ePOINTING DOWNWARDS ABOVEgBELOWcFOUR DOTS ABOVEeBELOWcDOUBLE VERTICAL BAR BELOWcTWO DOTS VERTICALLY ABOVEfBELOW",
  "cRINGcSMALL TAH ABOVEeBELOWcWASLA ABOVE",
  "FBD3 bLETTER NG ISOLATED FORMdFINAL FORMdINITIAL FORMdMEDIAL FORMcU ISOLATED FORMdFINAL FORMcOE ISOLATED FORM",
  "dFINAL FORMcYU ISOLATED FORMdFINAL FORMcU WITH HAMZA ABOVE ISOLATED FORMcVE ISOLATED FORMdFINAL FORM",
  "cKIRGHIZ OE ISOLATED FORMeFINAL FORMdYU ISOLATED FORMeFINAL FORMcE ISOLATED FORMdFINAL FORMdINITIAL FORM",
  "dMEDIAL FORMcUIGHUR KAZAKH KIRGHIZ ALEF MAKSURA INITIAL FORMhMEDIAL FORM",
  "bLIGATURE YEH WITH HAMZA ABOVE WITH ALEF ISOLATED FORMiFINAL FORMhAE ISOLATED FORMiFINAL FORMhWAW ISOLATED FORM",
  "iFINAL FORMhU ISOLATED FORMiFINAL FORMhOE ISOLATED FORMiFINAL FORMhYU ISOLATED FORMiFINAL FORMhE ISOLATED FORM",
  "iFINAL FORMiINITIAL FORMcUIGHUR KIRGHIZ YEH WITH HAMZA ABOVE WITH ALEF MAKSURA ISOLATED FORMlFINAL FORM",
  "lINITIAL FORMbLETTER FARSI YEH ISOLATED FORMeFINAL FORMeINITIAL FORMeMEDIAL FORM",
  "bLIGATURE YEH WITH HAMZA ABOVE WITH JEEM ISOLATED FORMhHAH ISOLATED FORMhMEEM ISOLATED FORM",
  "hALEF MAKSURA ISOLATED FORMhYEH ISOLATED FORMcBEH WITH JEEM ISOLATED FORMeHAH ISOLATED FORMeKHAH ISOLATED FORM",
  "eMEEM ISOLATED FORMeALEF MAKSURA ISOLATED FORMeYEH ISOLATED FORMcTEH WITH JEEM ISOLATED FORMeHAH ISOLATED FORM",
  "eKHAH ISOLATED FORMeMEEM ISOLATED FORMeALEF MAKSURA ISOLATED FORMeYEH ISOLATED FORMcTHEH WITH JEEM ISOLATED FORM",
  "eMEEM ISOLATED FORMeALEF MAKSURA ISOLATED FORMeYEH ISOLATED FORMcJEEM WITH HAH ISOLATED FORMeMEEM ISOLATED FORM",
  "cHAH WITH JEEM ISOLATED FORMeMEEM ISOLATED FORMcKHAH WITH JEEM ISOLATED FORMeHAH ISOLATED FORM",
  "eMEEM ISOLATED FORMcSEEN WITH JEEM ISOLATED FORMeHAH ISOLATED FORMeKHAH ISOLATED FORMeMEEM ISOLATED FORM",
  "cSAD WITH HAH ISOLATED FORMeMEEM ISOLATED FORMcDAD WITH JEEM ISOLATED FORMeHAH ISOLATED FORMeKHAH ISOLATED FORM",
  "eMEEM ISOLATED FORMcTAH WITH HAH ISOLATED FORMeMEEM ISOLATED FORMcZAH WITH MEEM ISOLATED FORM",
  "cAIN WITH JEEM ISOLATED FORMeMEEM ISOLATED FORMcGHAIN WITH JEEM ISOLATED FORMeMEEM ISOLATED FORM",
  "cFEH WITH JEEM ISOLATED FORMeHAH ISOLATED FORMeKHAH ISOLATED FORMeMEEM ISOLATED FORMeALEF MAKSURA ISOLATED FORM",
  "eYEH ISOLATED FORMcQAF WITH HAH ISOLATED FORMeMEEM ISOLATED FORMeALEF MAKSURA ISOLATED FORMeYEH ISOLATED FORM",
  "cKAF WITH ALEF ISOLATED FORMeJEEM ISOLATED FORMeHAH ISOLATED FORMeKHAH ISOLATED FORMeLAM ISOLATED FORM",
  "eMEEM ISOLATED FORMeALEF MAKSURA ISOLATED FORMeYEH ISOLATED FORMcLAM WITH JEEM ISOLATED FORMeHAH ISOLATED FORM",
  "eKHAH ISOLATED FORMeMEEM ISOLATED FORMeALEF MAKSURA ISOLATED FORMeYEH ISOLATED FORMcMEEM WITH JEEM ISOLATED FORM",
  "eHAH ISOLATED FORMeKHAH ISOLATED FORMeMEEM ISOLATED FORMeALEF MAKSURA ISOLATED FORMeYEH ISOLATED FORM",
  "cNOON WITH JEEM ISOLATED FORMeHAH ISOLATED FORMeKHAH ISOLATED FORMeMEEM ISOLATED FORMeALEF MAKSURA ISOLATED FORM",
  "eYEH ISOLATED FORMcHEH WITH JEEM ISOLATED FORMeMEEM ISOLATED FORMeALEF MAKSURA ISOLATED FORMeYEH ISOLATED FORM",
  "cYEH WITH JEEM ISOLATED FORMeHAH ISOLATED FORMeKHAH ISOLATED FORMeMEEM ISOLATED FORMeALEF MAKSURA ISOLATED FORM",
  "eYEH ISOLATED FORMcTHAL WITH SUPERSCRIPT ALEF ISOLATED FORMcREH WITH SUPERSCRIPT ALEF ISOLATED FORM",
  "cALEF MAKSURA WITH SUPERSCRIPT ALEF ISOLATED FORMcSHADDA WITH DAMMATAN ISOLATED FORMeKASRATAN ISOLATED FORM",
  "eFATHA ISOLATED FORMeDAMMA ISOLATED FORMeKASRA ISOLATED FORMeSUPERSCRIPT ALEF ISOLATED FORM",
  "cYEH WITH HAMZA ABOVE WITH REH FINAL FORMhZAIN FINAL FORMhMEEM FINAL FORMhNOON FINAL FORM",
  "hALEF MAKSURA FINAL FORMhYEH FINAL FORMcBEH WITH REH FINAL FORMeZAIN FINAL FORMeMEEM FINAL FORMeNOON FINAL FORM",
  "eALEF MAKSURA FINAL FORMeYEH FINAL FORMcTEH WITH REH FINAL FORMeZAIN FINAL FORMeMEEM FINAL FORMeNOON FINAL FORM",
  "eALEF MAKSURA FINAL FORMeYEH FINAL FORMcTHEH WITH REH FINAL FORMeZAIN FINAL FORMeMEEM FINAL FORMeNOON FINAL FORM",
  "eALEF MAKSURA FINAL FORMeYEH FINAL FORMcFEH WITH ALEF MAKSURA FINAL FORMeYEH FINAL FORM",
  "cQAF WITH ALEF MAKSURA FINAL FORMeYEH FINAL FORMcKAF WITH ALEF FINAL FORMeLAM FINAL FORMeMEEM FINAL FORM",
  "eALEF MAKSURA FINAL FORMeYEH FINAL FORMcLAM WITH MEEM FINAL FORMeALEF MAKSURA FINAL FORMeYEH FINAL FORM",
  "cMEEM WITH ALEF FINAL FORMeMEEM FINAL FORMcNOON WITH REH FINAL FORMeZAIN FINAL FORMeMEEM FINAL FORM",
  "eNOON FINAL FORMeALEF MAKSURA FINAL FORMeYEH FINAL FORMcALEF MAKSURA WITH SUPERSCRIPT ALEF FINAL FORM",
  "cYEH WITH REH FINAL FORMeZAIN FINAL FORMeMEEM FINAL FORMeNOON FINAL FORMeALEF MAKSURA FINAL FORMeYEH FINAL FORM",
  "eHAMZA ABOVE WITH JEEM INITIAL FORMhHAH INITIAL FORMhKHAH INITIAL FORMhMEEM INITIAL FORMhHEH INITIAL FORM",
  "cBEH WITH JEEM INITIAL FORMeHAH INITIAL FORMeKHAH INITIAL FORMeMEEM INITIAL FORMeHEH INITIAL FORM",
  "cTEH WITH JEEM INITIAL FORMeHAH INITIAL FORMeKHAH INITIAL FORMeMEEM INITIAL FORMeHEH INITIAL FORM",
  "cTHEH WITH MEEM INITIAL FORMcJEEM WITH HAH INITIAL FORMeMEEM INITIAL FORMcHAH WITH JEEM INITIAL FORM",
  "eMEEM INITIAL FORMcKHAH WITH JEEM INITIAL FORMeMEEM INITIAL FORMcSEEN WITH JEEM INITIAL FORMeHAH INITIAL FORM",
  "eKHAH INITIAL FORMeMEEM INITIAL FORMcSAD WITH HAH INITIAL FORMeKHAH INITIAL FORMeMEEM INITIAL FORM",
  "cDAD WITH JEEM INITIAL FORMeHAH INITIAL FORMeKHAH INITIAL FORMeMEEM INITIAL FORMcTAH WITH HAH INITIAL FORM",
  "cZAH WITH MEEM INITIAL FORMcAIN WITH JEEM INITIAL FORMeMEEM INITIAL FORMcGHAIN WITH JEEM INITIAL FORM",
  "eMEEM INITIAL FORMcFEH WITH JEEM INITIAL FORMeHAH INITIAL FORMeKHAH INITIAL FORMeMEEM INITIAL FORM",
  "cQAF WITH HAH INITIAL FORMeMEEM INITIAL FORMcKAF WITH JEEM INITIAL FORMeHAH INITIAL FORMeKHAH INITIAL FORM",
  "eLAM INITIAL FORMeMEEM INITIAL FORMcLAM WITH JEEM INITIAL FORMeHAH INITIAL FORMeKHAH INITIAL FORM",
  "eMEEM INITIAL FORMeHEH INITIAL FORMcMEEM WITH JEEM INITIAL FORMeHAH INITIAL FORMeKHAH INITIAL FORM",
  "eMEEM INITIAL FORMcNOON WITH JEEM INITIAL FORMeHAH INITIAL FORMeKHAH INITIAL FORMeMEEM INITIAL FORM",
  "eHEH INITIAL FORMcHEH WITH JEEM INITIAL FORMeMEEM INITIAL FORMeSUPERSCRIPT ALEF INITIAL FORM",
  "cYEH WITH JEEM INITIAL FORMeHAH INITIAL FORMeKHAH INITIAL FORMeMEEM INITIAL FORMeHEH INITIAL FORM",
  "eHAMZA ABOVE WITH MEEM MEDIAL FORMhHEH MEDIAL FORMcBEH WITH MEEM MEDIAL FORMeHEH MEDIAL FORM",
  "cTEH WITH MEEM MEDIAL FORMeHEH MEDIAL FORMcTHEH WITH MEEM MEDIAL FORMeHEH MEDIAL FORMcSEEN WITH MEEM MEDIAL FORM",
  "eHEH MEDIAL FORMcSHEEN WITH MEEM MEDIAL FORMeHEH MEDIAL FORMcKAF WITH LAM MEDIAL FORMeMEEM MEDIAL FORM",
  "cLAM WITH MEEM MEDIAL FORMcNOON WITH MEEM MEDIAL FORMeHEH MEDIAL FORMcYEH WITH MEEM MEDIAL FORMeHEH MEDIAL FORM",
  "cSHADDA WITH FATHA MEDIAL FORMeDAMMA MEDIAL FORMeKASRA MEDIAL FORMcTAH WITH ALEF MAKSURA ISOLATED FORM",
  "eYEH ISOLATED FORMcAIN WITH ALEF MAKSURA ISOLATED FORMeYEH ISOLATED FORMcGHAIN WITH ALEF MAKSURA ISOLATED FORM",
  "eYEH ISOLATED FORMcSEEN WITH ALEF MAKSURA ISOLATED FORMeYEH ISOLATED FORMcSHEEN WITH ALEF MAKSURA ISOLATED FORM",
  "eYEH ISOLATED FORMcHAH WITH ALEF MAKSURA ISOLATED FORMeYEH ISOLATED FORMcJEEM WITH ALEF MAKSURA ISOLATED FORM",
  "eYEH ISOLATED FORMcKHAH WITH ALEF MAKSURA ISOLATED FORMeYEH ISOLATED FORMcSAD WITH ALEF MAKSURA ISOLATED FORM",
  "eYEH ISOLATED FORMcDAD WITH ALEF MAKSURA ISOLATED FORMeYEH ISOLATED FORMcSHEEN WITH JEEM ISOLATED FORM",
  "eHAH ISOLATED FORMeKHAH ISOLATED FORMeMEEM ISOLATED FORMeREH ISOLATED FORMcSEEN WITH REH ISOLATED FORM",
  "cSAD WITH REH ISOLATED FORMcDAD WITH REH ISOLATED FORMcTAH WITH ALEF MAKSURA FINAL FORMeYEH FINAL FORM",
  "cAIN WITH ALEF MAKSURA FINAL FORMeYEH FINAL FORMcGHAIN WITH ALEF MAKSURA FINAL FORMeYEH FINAL FORM",
  "cSEEN WITH ALEF MAKSURA FINAL FORMeYEH FINAL FORMcSHEEN WITH ALEF MAKSURA FINAL FORMeYEH FINAL FORM",
  "cHAH WITH ALEF MAKSURA FINAL FORMeYEH FINAL FORMcJEEM WITH ALEF MAKSURA FINAL FORMeYEH FINAL FORM",
  "cKHAH WITH ALEF MAKSURA FINAL FORMeYEH FINAL FORMcSAD WITH ALEF MAKSURA FINAL FORMeYEH FINAL FORM",
  "cDAD WITH ALEF MAKSURA FINAL FORMeYEH FINAL FORMcSHEEN WITH JEEM FINAL FORMeHAH FINAL FORMeKHAH FINAL FORM",
  "eMEEM FINAL FORMeREH FINAL FORMcSEEN WITH REH FINAL FORMcSAD WITH REH FINAL FORMcDAD WITH REH FINAL FORM",
  "cSHEEN WITH JEEM INITIAL FORMeHAH INITIAL FORMeKHAH INITIAL FORMeMEEM INITIAL FORMcSEEN WITH HEH INITIAL FORM",
  "cSHEEN WITH HEH INITIAL FORMcTAH WITH MEEM INITIAL FORMcSEEN WITH JEEM MEDIAL FORMeHAH MEDIAL FORM",
  "eKHAH MEDIAL FORMcSHEEN WITH JEEM MEDIAL FORMeHAH MEDIAL FORMeKHAH MEDIAL FORMcTAH WITH MEEM MEDIAL FORM",
  "cZAH WITH MEEM MEDIAL FORMcALEF WITH FATHATAN FINAL FORMfISOLATED FORMaORNATE LEFT PARENTHESISbRIGHT PARENTHESIS",
  "aARABIC LIGATURE RAHIMAHU ALLAAHcRADI ALLAAHU ANHeANHAAeANHUMeANHUMAAeANHUNNAcSALLALLAAHU ALAYHI WA-AALIH",
  "cALAYHI AS-SALAAMcALAYHIM AS-SALAAMcALAYHIMAA AS-SALAAMcALAYHI AS-SALAATU WAS-SALAAMcQUDDISA SIRRAH",
  "cSALLALLAHU ALAYHI WAAALIHEE WA-SALLAMcALAYHAA AS-SALAAMcTABAARAKA WA-TAAALAAcRAHIMAHUM ALLAAH",
  "cTEH WITH JEEM WITH MEEM INITIAL FORMeHAH WITH JEEM FINAL FORMhINITIAL FORMgMEEM INITIAL FORM",
  "eKHAH WITH MEEM INITIAL FORMeMEEM WITH JEEM INITIAL FORMgHAH INITIAL FORMgKHAH INITIAL FORM",
  "cJEEM WITH MEEM WITH HAH FINAL FORMhINITIAL FORMcHAH WITH MEEM WITH YEH FINAL FORMgALEF MAKSURA FINAL FORM",
  "cSEEN WITH HAH WITH JEEM INITIAL FORMeJEEM WITH HAH INITIAL FORMgALEF MAKSURA FINAL FORM",
  "eMEEM WITH HAH FINAL FORMhINITIAL FORMgJEEM INITIAL FORMgMEEM FINAL FORMhINITIAL FORM",
  "cSAD WITH HAH WITH HAH FINAL FORMhINITIAL FORMeMEEM WITH MEEM FINAL FORMcSHEEN WITH HAH WITH MEEM FINAL FORM",
  "hINITIAL FORMeJEEM WITH YEH FINAL FORMeMEEM WITH KHAH FINAL FORMhINITIAL FORMgMEEM FINAL FORMhINITIAL FORM",
  "cDAD WITH HAH WITH ALEF MAKSURA FINAL FORMeKHAH WITH MEEM FINAL FORMhINITIAL FORM",
  "cTAH WITH MEEM WITH HAH FINAL FORMhINITIAL FORMgMEEM INITIAL FORMgYEH FINAL FORM",
  "cAIN WITH JEEM WITH MEEM FINAL FORMeMEEM WITH MEEM FINAL FORMhINITIAL FORMgALEF MAKSURA FINAL FORM",
  "cGHAIN WITH MEEM WITH MEEM FINAL FORMgYEH FINAL FORMgALEF MAKSURA FINAL FORMcFEH WITH KHAH WITH MEEM FINAL FORM",
  "hINITIAL FORMcQAF WITH MEEM WITH HAH FINAL FORMgMEEM FINAL FORMcLAM WITH HAH WITH MEEM FINAL FORMgYEH FINAL FORM",
  "gALEF MAKSURA FINAL FORMeJEEM WITH JEEM INITIAL FORMhFINAL FORMeKHAH WITH MEEM FINAL FORMhINITIAL FORM",
  "eMEEM WITH HAH FINAL FORMhINITIAL FORMcMEEM WITH HAH WITH JEEM INITIAL FORMgMEEM INITIAL FORMgYEH FINAL FORM",
  "eJEEM WITH HAH INITIAL FORMgMEEM INITIAL FORMeKHAH WITH JEEM INITIAL FORMgMEEM INITIAL FORM",
  "FD92 eJEEM WITH KHAH INITIAL FORMcHEH WITH MEEM WITH JEEM INITIAL FORMgMEEM INITIAL FORM",
  "cNOON WITH HAH WITH MEEM INITIAL FORMgALEF MAKSURA FINAL FORMeJEEM WITH MEEM FINAL FORMhINITIAL FORM",
  "gALEF MAKSURA FINAL FORMeMEEM WITH YEH FINAL FORMgALEF MAKSURA FINAL FORMcYEH WITH MEEM WITH MEEM FINAL FORM",
  "hINITIAL FORMcBEH WITH KHAH WITH YEH FINAL FORMcTEH WITH JEEM WITH YEH FINAL FORMgALEF MAKSURA FINAL FORM",
  "eKHAH WITH YEH FINAL FORMgALEF MAKSURA FINAL FORMeMEEM WITH YEH FINAL FORMgALEF MAKSURA FINAL FORM",
  "cJEEM WITH MEEM WITH YEH FINAL FORMeHAH WITH ALEF MAKSURA FINAL FORMeMEEM WITH ALEF MAKSURA FINAL FORM",
  "cSEEN WITH KHAH WITH ALEF MAKSURA FINAL FORMcSAD WITH HAH WITH YEH FINAL FORMcSHEEN WITH HAH WITH YEH FINAL FORM",
  "cDAD WITH HAH WITH YEH FINAL FORMcLAM WITH JEEM WITH YEH FINAL FORMeMEEM WITH YEH FINAL FORM",
  "cYEH WITH HAH WITH YEH FINAL FORMeJEEM WITH YEH FINAL FORMeMEEM WITH YEH FINAL FORM",
  "cMEEM WITH MEEM WITH YEH FINAL FORMcQAF WITH MEEM WITH YEH FINAL FORMcNOON WITH HAH WITH YEH FINAL FORM",
  "cQAF WITH MEEM WITH HAH INITIAL FORMcLAM WITH HAH WITH MEEM INITIAL FORMcAIN WITH MEEM WITH YEH FINAL FORM",
  "cKAF WITH MEEM WITH YEH FINAL FORMcNOON WITH JEEM WITH HAH INITIAL FORMcMEEM WITH KHAH WITH YEH FINAL FORM",
  "cLAM WITH JEEM WITH MEEM INITIAL FORMcKAF WITH MEEM WITH MEEM FINAL FORMcLAM WITH JEEM WITH MEEM FINAL FORM",
  "cNOON WITH JEEM WITH HAH FINAL FORMcJEEM WITH HAH WITH YEH FINAL FORMcHAH WITH JEEM WITH YEH FINAL FORM",
  "cMEEM WITH JEEM WITH YEH FINAL FORMcFEH WITH MEEM WITH YEH FINAL FORMcBEH WITH HAH WITH YEH FINAL FORM",
  "cKAF WITH MEEM WITH MEEM INITIAL FORMcAIN WITH JEEM WITH MEEM INITIAL FORMcSAD WITH MEEM WITH MEEM INITIAL FORM",
  "cSEEN WITH KHAH WITH YEH FINAL FORMcNOON WITH JEEM WITH YEH FINAL FORM",
  "FDCF cSALAAMUHU ALAYNAA",
  "FDF0 cSALLA USED AS KORANIC STOP SIGN ISOLATED FORMcQALA USED AS KORANIC STOP SIGN ISOLATED FORM",
  "cALLAH ISOLATED FORMcAKBAR ISOLATED FORMcMOHAMMAD ISOLATED FORMcSALAM ISOLATED FORMcRASOUL ISOLATED FORM",
  "cALAYHE ISOLATED FORMcWASALLAM ISOLATED FORMcSALLA ISOLATED FORMcSALLALLAHOU ALAYHE WASALLAMcJALLAJALALOUHOU",
  "aRIAL SIGNaARABIC LIGATURE BISMILLAH AR-RAHMAN AR-RAHEEMcSUBHAANAHU WA TAAALAAcAZZA WA JALLaVARIATION SELECTOR-1",
  "+++++++++++++++aPRESENTATION FORM FOR VERTICAL COMMAeIDEOGRAPHIC COMMAfFULL STOPeCOLONeSEMICOLON",
  "eEXCLAMATION MARKeQUESTION MARKeLEFT WHITE LENTICULAR BRACKETeRIGHT WHITE LENTICULAR BRAKCETeHORIZONTAL ELLIPSIS",
  "FE20 aCOMBINING LIGATURE LEFT HALFcRIGHT HALFbDOUBLE TILDE LEFT HALFdRIGHT HALFbMACRON LEFT HALFcRIGHT HALF",
  "bCONJOINING MACRONbLIGATURE LEFT HALF BELOWcRIGHT HALF BELOWbTILDE LEFT HALF BELOWcRIGHT HALF BELOW",
  "bMACRON LEFT HALF BELOWcRIGHT HALF BELOWbCONJOINING MACRON BELOWbCYRILLIC TITLO LEFT HALFdRIGHT HALF",
  "aPRESENTATION FORM FOR VERTICAL TWO DOT LEADEReEM DASHeEN DASHeLOW LINEeWAVY LOW LINEeLEFT PARENTHESIS",
  "eRIGHT PARENTHESISeLEFT CURLY BRACKETeRIGHT CURLY BRACKETeLEFT TORTOISE SHELL BRACKET",
  "eRIGHT TORTOISE SHELL BRACKETeLEFT BLACK LENTICULAR BRACKETeRIGHT BLACK LENTICULAR BRACKET",
  "eLEFT DOUBLE ANGLE BRACKETeRIGHT DOUBLE ANGLE BRACKETeLEFT ANGLE BRACKETeRIGHT ANGLE BRACKETeLEFT CORNER BRACKET",
  "eRIGHT CORNER BRACKETeLEFT WHITE CORNER BRACKETeRIGHT WHITE CORNER BRACKETaSESAME DOTaWHITE SESAME DOT",
  "aPRESENTATION FORM FOR VERTICAL LEFT SQUARE BRACKETeRIGHT SQUARE BRACKETaDASHED OVERLINEaCENTRELINE OVERLINE",
  "aWAVY OVERLINEaDOUBLE WAVY OVERLINEaDASHED LOW LINEaCENTRELINE LOW LINEaWAVY LOW LINEaSMALL COMMA",
  "bIDEOGRAPHIC COMMAbFULL STOP",
  "FE54 bSEMICOLONbCOLONbQUESTION MARKbEXCLAMATION MARKbEM DASHbLEFT PARENTHESISbRIGHT PARENTHESIS",
  "bLEFT CURLY BRACKETbRIGHT CURLY BRACKETbLEFT TORTOISE SHELL BRACKETbRIGHT TORTOISE SHELL BRACKETbNUMBER SIGN",
  "bAMPERSANDbASTERISKbPLUS SIGNbHYPHEN-MINUSbLESS-THAN SIGNbGREATER-THAN SIGNbEQUALS SIGN",
  "FE68 bREVERSE SOLIDUSbDOLLAR SIGNbPERCENT SIGNbCOMMERCIAL AT",
  "FE70 aARABIC FATHATAN ISOLATED FORMbTATWEEL WITH FATHATAN ABOVEbDAMMATAN ISOLATED FORMbTAIL FRAGMENT",
  "bKASRATAN ISOLATED FORM",
  "FE76 bFATHA ISOLATED FORMcMEDIAL FORMbDAMMA ISOLATED FORMcMEDIAL FORMbKASRA ISOLATED FORMcMEDIAL FORM",
  "bSHADDA ISOLATED FORMcMEDIAL FORMbSUKUN ISOLATED FORMcMEDIAL FORMbLETTER HAMZA ISOLATED FORM",
  "cALEF WITH MADDA ABOVE ISOLATED FORMgFINAL FORMeHAMZA ABOVE ISOLATED FORMgFINAL FORM",
  "cWAW WITH HAMZA ABOVE ISOLATED FORMgFINAL FORMcALEF WITH HAMZA BELOW ISOLATED FORMgFINAL FORM",
  "cYEH WITH HAMZA ABOVE ISOLATED FORMgFINAL FORMgINITIAL FORMgMEDIAL FORMcALEF ISOLATED FORMdFINAL FORM",
  "cBEH ISOLATED FORMdFINAL FORMdINITIAL FORMdMEDIAL FORMcTEH MARBUTA ISOLATED FORMeFINAL FORMdISOLATED FORM",
  "dFINAL FORMdINITIAL FORMdMEDIAL FORMcTHEH ISOLATED FORMdFINAL FORMdINITIAL FORMdMEDIAL FORMcJEEM ISOLATED FORM",
  "dFINAL FORMdINITIAL FORMdMEDIAL FORMcHAH ISOLATED FORMdFINAL FORMdINITIAL FORMdMEDIAL FORMcKHAH ISOLATED FORM",
  "dFINAL FORMdINITIAL FORMdMEDIAL FORMcDAL ISOLATED FORMdFINAL FORMcTHAL ISOLATED FORMdFINAL FORM",
  "cREH ISOLATED FORMdFINAL FORMcZAIN ISOLATED FORMdFINAL FORMcSEEN ISOLATED FORMdFINAL FORMdINITIAL FORM",
  "dMEDIAL FORMcSHEEN ISOLATED FORMdFINAL FORMdINITIAL FORMdMEDIAL FORMcSAD ISOLATED FORMdFINAL FORMdINITIAL FORM",
  "dMEDIAL FORMcDAD ISOLATED FORMdFINAL FORMdINITIAL FORMdMEDIAL FORMcTAH ISOLATED FORMdFINAL FORMdINITIAL FORM",
  "dMEDIAL FORMcZAH ISOLATED FORMdFINAL FORMdINITIAL FORMdMEDIAL FORMcAIN ISOLATED FORMdFINAL FORMdINITIAL FORM",
  "dMEDIAL FORMcGHAIN ISOLATED FORMdFINAL FORMdINITIAL FORMdMEDIAL FORMcFEH ISOLATED FORMdFINAL FORMdINITIAL FORM",
  "dMEDIAL FORMcQAF ISOLATED FORMdFINAL FORMdINITIAL FORMdMEDIAL FORMcKAF ISOLATED FORMdFINAL FORMdINITIAL FORM",
  "dMEDIAL FORMcLAM ISOLATED FORMdFINAL FORMdINITIAL FORMdMEDIAL FORMcMEEM ISOLATED FORMdFINAL FORMdINITIAL FORM",
  "dMEDIAL FORMcNOON ISOLATED FORMdFINAL FORMdINITIAL FORMdMEDIAL FORMcHEH ISOLATED FORMdFINAL FORMdINITIAL FORM",
  "dMEDIAL FORMcWAW ISOLATED FORMdFINAL FORMcALEF MAKSURA ISOLATED FORMeFINAL FORMcYEH ISOLATED FORMdFINAL FORM",
  "dINITIAL FORMdMEDIAL FORMbLIGATURE LAM WITH ALEF WITH MADDA ABOVE ISOLATED FORMiFINAL FORM",
  "gHAMZA ABOVE ISOLATED FORMiFINAL FORMhBELOW ISOLATED FORMiFINAL FORMfISOLATED FORMfFINAL FORM",
  "FEFF aZERO WIDTH NO-BREAK SPACE",
  "FF01 aFULLWIDTH EXCLAMATION MARKbQUOTATION MARKbNUMBER SIGNbDOLLAR SIGNbPERCENT SIGNbAMPERSANDbAPOSTROPHE",
  "bLEFT PARENTHESISbRIGHT PARENTHESISbASTERISKbPLUS SIGNbCOMMAbHYPHEN-MINUSbFULL STOPbSOLIDUSbDIGIT ZEROcONEcTWO",
  "cTHREEcFOURcFIVEcSIXcSEVENcEIGHTcNINEbCOLONbSEMICOLONbLESS-THAN SIGNbEQUALS SIGNbGREATER-THAN SIGNbQUESTION MARK",
  "bCOMMERCIAL ATbLATIN CAPITAL LETTER AeBeCeDeEeFeGeHeIeJeKeLeMeNeOePeQeReSeTeUeVeWeXeYeZbLEFT SQUARE BRACKET",
  "bREVERSE SOLIDUSbRIGHT SQUARE BRACKETbCIRCUMFLEX ACCENTbLOW LINEbGRAVE ACCENTbLATIN SMALL LETTER AeBeCeDeEeFeGeH",
  "eIeJeKeLeMeNeOePeQeReSeTeUeVeWeXeYeZbLEFT CURLY BRACKETbVERTICAL LINEbRIGHT CURLY BRACKETbTILDE",
  "bLEFT WHITE PARENTHESISbRIGHT WHITE PARENTHESISaHALFWIDTH IDEOGRAPHIC FULL STOPbLEFT CORNER BRACKET",
  "bRIGHT CORNER BRACKETbIDEOGRAPHIC COMMAbKATAKANA MIDDLE DOTcLETTER WOdSMALL AeIeUeEeOeYAeYUeYOeTU",
  "bKATAKANA-HIRAGANA PROLONGED SOUND MARKbKATAKANA LETTER AdIdUdEdOdKAdKIdKUdKEdKOdSAdSIdSUdSEdSOdTAdTIdTUdTEdTO",
  "dNAdNIdNUdNEdNOdHAdHIdHUdHEdHOdMAdMIdMUdMEdMOdYAdYUdYOdRAdRIdRUdREdROdWAdNcVOICED SOUND MARK",
  "cSEMI-VOICED SOUND MARKbHANGUL FILLERcLETTER KIYEOKdSSANGKIYEOKdKIYEOK-SIOSdNIEUNdNIEUN-CIEUCdNIEUN-HIEUHdTIKEUT",
  "dSSANGTIKEUTdRIEULdRIEUL-KIYEOKdRIEUL-MIEUMdRIEUL-PIEUPdRIEUL-SIOSdRIEUL-THIEUTHdRIEUL-PHIEUPHdRIEUL-HIEUHdMIEUM",
  "dPIEUPdSSANGPIEUPdPIEUP-SIOSdSIOSdSSANGSIOSdIEUNGdCIEUCdSSANGCIEUCdCHIEUCHdKHIEUKHdTHIEUTHdPHIEUPHdHIEUH",
  "FFC2 dAdAEdYAdYAEdEOdE",
  "FFCA dYEOdYEdOdWAdWAEdOE",
  "FFD2 dYOdUdWEOdWEdWIdYU",
  "FFDA dEUdYIdI",
  "FFE0 aFULLWIDTH CENT SIGNbPOUND SIGNbNOT SIGNbMACRONbBROKEN BARbYEN SIGNbWON SIGN",
  "FFE8 aHALFWIDTH FORMS LIGHT VERTICALbLEFTWARDS ARROWbUPWARDS ARROWbRIGHTWARDS ARROWbDOWNWARDS ARROWbBLACK SQUARE",
  "bWHITE CIRCLE",
  "FFF9 aINTERLINEAR ANNOTATION ANCHORcSEPARATORcTERMINATORaOBJECT REPLACEMENT CHARACTERaREPLACEMENT CHARACTER"]

end SpellLint.Text
