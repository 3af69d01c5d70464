/-! # Names of the characters from U+10000 to U+1BFFF -/

set_option autoImplicit false

namespace SpellLint.Text

/-- Runs of names in the form that is described at the search for a name. -/
def ancientNames : List String := [
  "10000 aLINEAR B SYLLABLE B008 AdB038 EdB028 IdB061 OdB010 UdB001 DAdB045 DEdB007 DIdB014 DOdB051 DUdB057 JA",
  "dB046 JE",
  "1000D dB036 JOdB065 JUdB077 KAdB044 KEdB067 KIdB070 KOdB081 KUdB080 MAdB013 MEdB073 MIdB015 MOdB023 MUdB006 NA",
  "dB024 NEdB030 NIdB052 NOdB055 NUdB003 PAdB072 PEdB039 PIdB011 POdB050 PUdB016 QAdB078 QEdB021 QIdB032 QO",
  "10028 dB060 RAdB027 REdB053 RIdB002 ROdB026 RUdB031 SAdB009 SEdB041 SIdB012 SOdB058 SUdB059 TAdB004 TEdB037 TI",
  "dB005 TOdB069 TUdB054 WAdB075 WEdB040 WIdB042 WO",
  "1003C dB017 ZAdB074 ZE",
  "1003F dB020 ZOdB025 A2dB043 A3dB085 AUdB071 DWEdB090 DWOdB048 NWAdB029 PU2dB062 PTEdB076 RA2dB033 RA3dB068 RO2",
  "dB066 TA2dB087 TWEdB091 TWO",
  "10050 cSYMBOL B018+dB022dB034dB047dB049dB056dB063+dB079dB082+dB086dB089",
  "10080 cIDEOGRAM B100 MANdB102 WOMANdB104 DEERdB105 EQUIDdB105F MAREdB105M STALLIONdB106F EWEdB106M RAM",
  "dB107F SHE-GOATdB107M HE-GOATdB108F SOWdB108M BOARdB109F COWdB109M BULLdB120 WHEATdB121 BARLEYdB122 OLIVE",
  "dB123 SPICEdB125 CYPERUScMONOGRAM B127 KAPOdB128 KANAKOcIDEOGRAM B130 OILdB131 WINEdB132cMONOGRAM B133 AREPA",
  "dB135 MERIcIDEOGRAM B140 BRONZEdB141 GOLDdB142dB145 WOOLdB146dB150dB151 HORNdB152++cMONOGRAM B156 TURO2",
  "cIDEOGRAM B157+dB159 CLOTHdB160+dB162 GARMENTdB163 ARMOURdB164++++++++dB173 MONTHdB174dB176 TREEdB177++++++++",
  "dB189+dB191 HELMETdB220 FOOTSTOOLdB225 BATHTUBdB230 SPEARdB231 ARROWdB232dB233 SWORDdB234dB236",
  "dB240 WHEELED CHARIOTdB241 CHARIOTdB242 CHARIOT FRAMEdB243 WHEELdB245+cMONOGRAM B247 DIPTEcIDEOGRAM B248+dB251++",
  "dB254 DARTdB255++++dVESSEL B155eB200+++++++++++++++++++eB221+eB226+++eB250eB305",
  "10100 aAEGEAN WORD SEPARATOR LINEdDOTbCHECK MARK",
  "10107 bNUMBER ONEcTWOcTHREEcFOURcFIVEcSIXcSEVENcEIGHTcNINEcTENcTWENTYcTHIRTYcFORTYcFIFTYcSIXTYcSEVENTYcEIGHTY",
  "cNINETYcONE HUNDREDcTWO HUNDREDcTHREE HUNDREDcFOUR HUNDREDcFIVE HUNDREDcSIX HUNDREDcSEVEN HUNDREDcEIGHT HUNDRED",
  "cNINE HUNDREDcONE THOUSANDcTWO THOUSANDcTHREE THOUSANDcFOUR THOUSANDcFIVE THOUSANDcSIX THOUSANDcSEVEN THOUSAND",
  "cEIGHT THOUSANDcNINE THOUSANDcTEN THOUSANDcTWENTY THOUSANDcTHIRTY THOUSANDcFORTY THOUSANDcFIFTY THOUSAND",
  "cSIXTY THOUSANDcSEVENTY THOUSANDcEIGHTY THOUSANDcNINETY THOUSAND",
  "10137 bWEIGHT BASE UNITcFIRST SUBUNITcSECOND SUBUNITcTHIRD SUBUNITcFOURTH SUBUNITbDRY MEASURE FIRST SUBUNIT",
  "bLIQUID MEASURE FIRST SUBUNITbMEASURE SECOND SUBUNITcTHIRD SUBUNITaGREEK ACROPHONIC ATTIC ONE QUARTEReHALF",
  "eDRACHMAdFIVEdFIFTYdFIVE HUNDREDeTHOUSANDdFIFTY THOUSANDdFIVE TALENTSdTEN TALENTSdFIFTY TALENTS",
  "dONE HUNDRED TALENTSdFIVE HUNDRED TALENTSdONE THOUSAND TALENTSdFIVE THOUSAND TALENTSeSTATERSdTEN STATERS",
  "dFIFTY STATERSdONE HUNDRED STATERSdFIVE HUNDRED STATERSdONE THOUSAND STATERSdTEN THOUSAND STATERS",
  "dFIFTY THOUSAND STATERSdTEN MNAScHERAEUM ONE PLETHRONcTHESPIAN ONEcHERMIONIAN ONEcEPIDAUREAN TWOcTHESPIAN TWO",
  "cCYRENAIC TWO DRACHMAScEPIDAUREAN TWO DRACHMAScTROEZENIAN FIVEdTENeALTERNATE FORMcHERMIONIAN TENcMESSENIAN TEN",
  "cTHESPIAN TENdTHIRTYcTROEZENIAN FIFTYeALTERNATE FORMcHERMIONIAN FIFTYcTHESPIAN FIFTYdONE HUNDREDdTHREE HUNDRED",
  "cEPIDAUREAN FIVE HUNDREDcTROEZENIAN FIVE HUNDREDcTHESPIAN FIVE HUNDREDcCARYSTIAN FIVE HUNDRED",
  "cNAXIAN FIVE HUNDREDcTHESPIAN ONE THOUSANDdFIVE THOUSANDcDELPHIC FIVE MNAScSTRATIAN FIFTY MNASbONE HALF SIGN",
  "eALTERNATE FORMbTWO THIRDS SIGNbTHREE QUARTERS SIGNbYEAR SIGNbTALENT SIGNbDRACHMA SIGNbOBOL SIGNbTWO OBOLS SIGN",
  "bTHREE OBOLS SIGNbFOUR OBOLS SIGNbFIVE OBOLS SIGNbMETRETES SIGNbKYATHOS BASE SIGNbLITRA SIGNbOUNKIA SIGN",
  "bXESTES SIGNbARTABE SIGNbAROURA SIGNbGRAMMA SIGNbTRYBLION BASE SIGNbZERO SIGNbONE QUARTER SIGNbSINUSOID SIGN",
  "bINDICTION SIGNaNOMISMA SIGN",
  "10190 aROMAN SEXTANS SIGNbUNCIA SIGNbSEMUNCIA SIGNbSEXTULA SIGNbDIMIDIA SEXTULA SIGNbSILIQUA SIGNbDENARIUS SIGN",
  "bQUINARIUS SIGNbSESTERTIUS SIGNbDUPONDIUS SIGNbAS SIGNbCENTURIAL SIGNaASCIA SYMBOL",
  "101A0 aGREEK SYMBOL TAU RHO",
  "101D0 aPHAISTOS DISC SIGN PEDESTRIANdPLUMED HEADdTATTOOED HEADdCAPTIVEdCHILDdWOMANdHELMETdGAUNTLETdTIARAdARROW",
  "dBOWdSHIELDdCLUBdMANACLESdMATTOCKdSAWdLIDdBOOMERANGdCARPENTRY PLANEdDOLIUMdCOMBdSLINGdCOLUMNdBEEHIVEdSHIPdHORN",
  "dHIDEdBULLS LEGdCATdRAMdEAGLEdDOVEdTUNNYdBEEdPLANE TREEdVINEdPAPYRUSdROSETTEdLILYdOX BACKdFLUTEdGRATERdSTRAINER",
  "dSMALL AXEdWAVY BANDdCOMBINING OBLIQUE STROKE",
  "10280 aLYCIAN LETTER AcEcBcBHcGcDcIcWcZcTHcJcKcQcLcMcNcMMcNNcUcPcKKcRcScTcTTcANcENcHcX",
  "102A0 aCARIAN LETTER AcP2cDcLcUUUcRcLDcA2cQcBcMcOcD2cTcSHcSH2cScC-18cUcNNcXcNcTT2cPcSScIcEcUUUUcKcK2cNDcUUcGcG2",
  "cSTcST2cNGcIIcC-39cTTcUUU2cRRcMBcMB2++cLD2cE2cUUU3",
  "102E0 aCOPTIC EPACT THOUSANDS MARKcDIGIT ONEdTWOdTHREEdFOURdFIVEdSIXdSEVENdEIGHTdNINEcNUMBER TENdTWENTYdTHIRTY",
  "dFORTYdFIFTYdSIXTYdSEVENTYdEIGHTYdNINETYdONE HUNDREDdTWO HUNDREDdTHREE HUNDREDdFOUR HUNDREDdFIVE HUNDRED",
  "dSIX HUNDREDdSEVEN HUNDREDdEIGHT HUNDREDdNINE HUNDRED",
  "10300 aOLD ITALIC LETTER AdBEdKEdDEdEdVEdZEdHEdTHEdIdKAdELdEMdENdESHdOdPEdSHEdKUdERdESdTEdUdEKSdPHEdKHEdEFdERS",
  "dCHEdIIdUUdESScNUMERAL ONEdFIVEdTENdFIFTY",
  "1032D cLETTER YEdNORTHERN TSEdSOUTHERN TSEaGOTHIC LETTER AHSAcBAIRKANcGIBAcDAGScAIHVUScQAIRTHRAcIUJAcHAGLcTHIUTH",
  "cEIScKUSMAcLAGUScMANNAcNAUTHScJERcURUScPAIRTHRAcNINETYcRAIDAcSAUILcTEIWScWINJAcFAIHUcIGGWScHWAIRcOTHAL",
  "cNINE HUNDRED",
  "10350 aOLD PERMIC LETTER ANdBURdGAIdDOIdEdZHOIdDZHOIdZATAdDZITAdIdKOKEdLEIdMENOEdNENOEdVOOIdPEEIdREIdSIIdTAIdU",
  "dCHERYdSHOOIdSHCHOOIdYRYdYERUdOdOOdEFdHAdTSIUdVERdYERdYERIdYATdIEdYUdYAdIAaCOMBINING OLD PERMIC LETTER ANeDOI",
  "eZATAeNENOEeSII",
  "10380 aUGARITIC LETTER ALPAcBETAcGAMLAcKHAcDELTAcHOcWOcZETAcHOTAcTETcYODcKAFcSHINcLAMDAcMEMcDHALcNUNcZUcSAMKA",
  "cAINcPUcSADEcQOPAcRASHAcTHANNAcGHAINcTOcIcUcSSU",
  "1039F bWORD DIVIDERaOLD PERSIAN SIGN AdIdUdKAdKUdGAdGUdXAdCAdJAdJIdTAdTUdDAdDIdDUdTHAdPAdBAdFAdNAdNUdMAdMIdMUdYA",
  "dVAdVIdRAdRUdLAdSAdZAdSHAdSSAdHA",
  "103C8 dAURAMAZDAAdAURAMAZDAA-2dAURAMAZDAAHAdXSHAAYATHIYAdDAHYAAUSHdDAHYAAUSH-2dBAGAdBUUMISHcWORD DIVIDER",
  "cNUMBER ONEdTWOdTENdTWENTYdHUNDRED",
  "10400 aDESERET CAPITAL LETTER LONG IeEeAeAHeOeOOdSHORT IeEeAeAHeOeOOdAYdOWdWUdYEEdHdPEEdBEEdTEEdDEEdCHEEdJEEdKAY",
  "dGAYdEFdVEEdETHdTHEEdESdZEEdESHdZHEEdERdELdEMdENdENGdOIdEWbSMALL LETTER LONG IeEeAeAHeOeOOdSHORT IeEeAeAHeOeOO",
  "dAYdOWdWUdYEEdHdPEEdBEEdTEEdDEEdCHEEdJEEdKAYdGAYdEFdVEEdETHdTHEEdESdZEEdESHdZHEEdERdELdEMdENdENGdOIdEW",
  "aSHAVIAN LETTER PEEPcTOTcKICKcFEEcTHIGHcSOcSUREcCHURCHcYEAcHUNGcBIBcDEADcGAGcVOWcTHEYcZOOcMEASUREcJUDGEcWOE",
  "cHA-HAcLOLLcMIMEcIFcEGGcASHcADOcONcWOOLcOUTcAHcROARcNUNcEATcAGEcICEcUPcOAKcOOZEcOILcAWEcAREcORcAIRcERRcARRAYcEAR",
  "cIANcYEWaOSMANYA LETTER ALEFcBAcTAcJAcXAcKHAcDEELcRAcSAcSHIINcDHAcCAYNcGAcFAcQAAFcKAAFcLAANcMIINcNUUNcWAWcHAcYA",
  "cAcEcIcOcUcAAcEEcOO",
  "104A0 bDIGIT ZEROcONEcTWOcTHREEcFOURcFIVEcSIXcSEVENcEIGHTcNINE",
  "104B0 aOSAGE CAPITAL LETTER AdAIdAINdAHdBRAdCHAdEHCHAdEdEINdHAdHYAdIdKAdEHKAdKYAdLAdMAdNAdOdOINdPAdEHPAdSAdSHA",
  "dTAdEHTAdTSAdEHTSAdTSHAdDHAdUdWAdKHAdGHAdZAdZHA",
  "104D8 bSMALL LETTER AdAIdAINdAHdBRAdCHAdEHCHAdEdEINdHAdHYAdIdKAdEHKAdKYAdLAdMAdNAdOdOINdPAdEHPAdSAdSHAdTAdEHTA",
  "dTSAdEHTSAdTSHAdDHAdUdWAdKHAdGHAdZAdZHA",
  "10500 aELBASAN LETTER AcBEcCEcCHEcDEcNDEcDHEcEIcEcFEcGEcGJEcHEcIcJEcKEcLEcLLEcMEcNEcNAcNJEcOcPEcQEcREcRREcSEcSHE",
  "cTEcTHEcUcVEcXEcYcZEcZHEcGHEcGHAMMAcKHE",
  "10530 aCAUCASIAN ALBANIAN LETTER ALTdBETdGIMdDATdEBdZARLdEYNdZHILdTASdCHAdYOWDdZHAdIRBdSHAdLANdINYAdXEYNdDYAN",
  "dCARdJHOXdKARdLYITdHEYTdQAYdAORdCHOYdCHIdCYAYdMAQdQARdNOWCdDZYAYdSHAKdJAYNdONdTYAYdFAMdDZAYdCHATdPENdGHEYSdRAT",
  "dSEYKdVEYZdTIWRdSHOYdIWNdCYAWdCAYNdYAYDdPIWRdKIW",
  "1056F cCITATION MARKaVITHKUQI CAPITAL LETTER AdBBEdBEdCEdCHEdDEdDHEdEIdEdFEdGA",
  "1057C dHAdHHAdIdIJEdJEdKAdLAdLLAdMEdNEdNJEdOdPEdQAdRE",
  "1058C dSEdSHEdTEdTHEdUdVEdXE",
  "10594 dYdZE",
  "10597 bSMALL LETTER AdBBEdBEdCEdCHEdDEdDHEdEIdEdFEdGA",
  "105A3 dHAdHHAdIdIJEdJEdKAdLAdLLAdMEdNEdNJEdOdPEdQAdRE",
  "105B3 dSEdSHEdTEdTHEdUdVEdXE",
  "105BB dYdZE",
  "10600 aLINEAR A SIGN AB001++++++++++dAB013dAB016+dAB020+dAB021FdAB021MdAB022dAB022FdAB022MdAB023dAB023MdAB024",
  "dAB026++dA028BdAB029++dAB034dAB037++++dAB044+++++++dAB053++++++++dAB065++dAB069+dAB073+dAB076++++++dAB085++",
  "dA100-102dAB118dAB120dA120BdAB122+dAB131AdAB131BdA131CdAB164dAB171dAB180dAB188dAB191dA301+++++++dA309AdA309B",
  "dA309CdA310++dA313AdA313BdA313CdA314+++++++++++++++++++++++++++++++++++++++++++++++++++++++++dA400-VASdA401-VAS",
  "dA402-VASdA403-VASdA404-VASdA405-VASdA406-VASdA407-VASdA408-VASdA409-VASdA410-VASdA411-VASdA412-VASdA413-VAS",
  "dA414-VASdA415-VASdA416-VASdA417-VASdA418-VASdA501+++++dA508+++++dA515+dA520+dA523+++++++++dA534++++++++dA545",
  "dA547++++++++++dA559dA563+++dA568+++++++++++++++++++++dA591+dA594++dA598dA600++++dA606dA608++++++++++++++++dA626",
  "+++dA634dA637+dA640dA642++++dA648+dA651+++++++++++++",
  "10740 dA701 AdA702 BdA703 DdA704 EdA705 FdA706 HdA707 JdA708 KdA709 LdA709-2 L2dA709-3 L3dA709-4 L4dA709-6 L6",
  "dA710 WdA711 XdA712 YdA713 OMEGAdA714 ABBdA715 BBdA717 DDdA726 EYYYdA732 JE",
  "10760 dA800+++++++",
  "10780 aMODIFIER LETTER SMALL CAPITAL AAcSUPERSCRIPT TRIANGULAR COLONdHALF TRIANGULAR COLONcSMALL AEdCAPITAL B",
  "dB WITH HOOK",
  "10787 dDZ DIGRAPHfWITH RETROFLEX HOOKgCURLdDEZH DIGRAPHdD WITH TAILfHOOKgAND TAILdREVERSED E",
  "dCLOSED REVERSED OPEN EdFENG DIGRAPHdRAMS HORNdCAPITAL GdG WITH HOOKdCAPITAL G WITH HOOKdH WITH STROKEdCAPITAL H",
  "dHENG WITH HOOKdDOTLESS J WITH STROKE AND HOOKdLS DIGRAPHdLZ DIGRAPHdL WITH BELTdCAPITAL L WITH BELT",
  "dL WITH RETROFLEX HOOK AND BELTdLEZHeWITH RETROFLEX HOOKdTURNED YfWITH BELTdO WITH STROKEdCAPITAL OE",
  "dCLOSED OMEGAdQdTURNED R WITH LONG LEGiAND RETROFLEX HOOKdR WITH TAILfFISHHOOKdCAPITAL RdTC DIGRAPH WITH CURL",
  "dTS DIGRAPHfWITH RETROFLEX HOOKdTESH DIGRAPHdT WITH RETROFLEX HOOKdV WITH RIGHT HOOK",
  "107B2 dCAPITAL YcGLOTTAL STOP WITH STROKEcREVERSED GLOTTAL STOP WITH STROKEcBILABIAL CLICKcDENTAL CLICK",
  "cLATERAL CLICKcALVEOLAR CLICKcRETROFLEX CLICK WITH RETROFLEX HOOKcSMALL S WITH CURL",
  "10800 aCYPRIOT SYLLABLE AcEcIcOcUcJA",
  "10808 cJO",
  "1080A cKAcKEcKIcKOcKUcLAcLEcLIcLOcLUcMAcMEcMIcMOcMUcNAcNEcNIcNOcNUcPAcPEcPIcPOcPUcRAcREcRIcROcRUcSAcSEcSIcSOcSU",
  "cTAcTEcTIcTOcTUcWAcWEcWIcWO",
  "10837 cXAcXE",
  "1083C cZA",
  "1083F cZOaIMPERIAL ARAMAIC LETTER ALEPHdBETHdGIMELdDALETHdHEdWAWdZAYINdHETHdTETHdYODHdKAPHdLAMEDHdMEMdNUNdSAMEKH",
  "dAYINdPEdSADHEdQOPHdRESHdSHINdTAW",
  "10857 cSECTION SIGNcNUMBER ONEdTWOdTHREEdTENdTWENTYdONE HUNDREDeTHOUSANDdTEN THOUSANDaPALMYRENE LETTER ALEPH",
  "cBETHcGIMELcDALETHcHEcWAWcZAYINcHETHcTETHcYODHcKAPHcLAMEDHcMEMcFINAL NUNcNUNcSAMEKHcAYINcPEcSADHEcQOPHcRESHcSHIN",
  "cTAWbLEFT-POINTING FLEURONbRIGHT-POINTING FLEURONbNUMBER ONEcTWOcTHREEcFOURcFIVEcTENcTWENTY",
  "aNABATAEAN LETTER FINAL ALEPHcALEPHcFINAL BETHcBETHcGIMELcDALETHcFINAL HEcHEcWAWcZAYINcHETHcTETHcFINAL YODHcYODH",
  "cFINAL KAPHcKAPHcFINAL LAMEDHcLAMEDHcFINAL MEMcMEMcFINAL NUNcNUNcSAMEKHcAYINcPEcSADHEcQOPHcRESHcFINAL SHINcSHIN",
  "cTAW",
  "108A7 bNUMBER ONEcTWOcTHREEcFOURbCRUCIFORM NUMBER FOURbNUMBER FIVEcTENcTWENTYcONE HUNDRED",
  "108E0 aHATRAN LETTER ALEPHcBETHcGIMELcDALETH-RESHcHEcWAWcZAYNcHETHcTETHcYODHcKAPHcLAMEDHcMEMcNUNcSAMEKHcAYNcPE",
  "cSADHEcQOPH",
  "108F4 cSHINcTAW",
  "108FB bNUMBER ONEcFIVEcTENcTWENTYcONE HUNDREDaPHOENICIAN LETTER ALFcBETcGAMLcDELTcHEcWAUcZAIcHETcTETcYODcKAF",
  "cLAMDcMEMcNUNcSEMKcAINcPEcSADEcQOFcROSHcSHINcTAUbNUMBER ONEcTENcTWENTYcONE HUNDREDcTWOcTHREE",
  "1091F bWORD SEPARATORaLYDIAN LETTER AcBcGcDcEcVcIcYcKcLcMcNcOcRcSScTcUcFcQcScTTcANcENcLYcNNcC",
  "1093F bTRIANGULAR MARK",
  "10980 aMEROITIC HIEROGLYPHIC LETTER AdEdIdOdYAdWAdBAdBA-2dPAdMAdNAdNA-2dNEdNE-2dRAdRA-2dLAdKHAdHHAdSAdSA-2dSEdKA",
  "dQAdTAdTA-2dTEdTE-2dTOdDAcSYMBOL VIDJdVIDJ-2bCURSIVE LETTER AdEdIdOdYAdWAdBAdPAdMAdNAdNEdRAdLAdKHAdHHAdSA",
  "dARCHAIC SAdSEdKAdQAdTAdTEdTOdDA",
  "109BC cFRACTION ELEVEN TWELFTHSdONE HALFcLOGOGRAM RMTdIMNcNUMBER ONEdTWOdTHREEdFOURdFIVEdSIXdSEVENdEIGHTdNINE",
  "dTENdTWENTYdTHIRTYdFORTYdFIFTYdSIXTYdSEVENTY",
  "109D2 dONE HUNDREDdTWO HUNDREDdTHREE HUNDREDdFOUR HUNDREDdFIVE HUNDREDdSIX HUNDREDdSEVEN HUNDREDdEIGHT HUNDRED",
  "dNINE HUNDREDdONE THOUSANDdTWO THOUSANDdTHREE THOUSANDdFOUR THOUSANDdFIVE THOUSANDdSIX THOUSANDdSEVEN THOUSAND",
  "dEIGHT THOUSANDdNINE THOUSANDdTEN THOUSANDdTWENTY THOUSANDdTHIRTY THOUSANDdFORTY THOUSANDdFIFTY THOUSAND",
  "dSIXTY THOUSANDdSEVENTY THOUSANDdEIGHTY THOUSANDdNINETY THOUSANDdONE HUNDRED THOUSANDdTWO HUNDRED THOUSAND",
  "dTHREE HUNDRED THOUSANDdFOUR HUNDRED THOUSANDdFIVE HUNDRED THOUSANDdSIX HUNDRED THOUSANDdSEVEN HUNDRED THOUSAND",
  "dEIGHT HUNDRED THOUSANDdNINE HUNDRED THOUSANDcFRACTION ONE TWELFTHdTWO TWELFTHSdTHREE TWELFTHSdFOUR TWELFTHS",
  "dFIVE TWELFTHSdSIX TWELFTHSdSEVEN TWELFTHSdEIGHT TWELFTHSdNINE TWELFTHSdTEN TWELFTHSaKHAROSHTHI LETTER A",
  "bVOWEL SIGN IdUdVOCALIC R",
  "10A05 dEdO",
  "10A0C cLENGTH MARKbSIGN DOUBLE RING BELOWcANUSVARAcVISARGAbLETTER KAcKHAcGAcGHA",
  "10A15 cCAcCHAcJA",
  "10A19 cNYAcTTAcTTHAcDDAcDDHAcNNAcTAcTHAcDAcDHAcNAcPAcPHAcBAcBHAcMAcYAcRAcLAcVAcSHAcSSAcSAcZAcHAcKKAcTTTHAcTTTA",
  "cVHA",
  "10A38 bSIGN BAR ABOVEcCAUDAcDOT BELOW",
  "10A3F bVIRAMAbDIGIT ONEcTWOcTHREEcFOURbNUMBER TENcTWENTYcONE HUNDREDdTHOUSANDbFRACTION ONE HALF",
  "10A50 bPUNCTUATION DOTcSMALL CIRCLEcCIRCLEcCRESCENT BARcMANGALAMcLOTUScDANDAcDOUBLE DANDAcLINES",
  "10A60 aOLD SOUTH ARABIAN LETTER HEeLAMEDHeHETHeMEMeQOPHeWAWeSHINeRESHeBETHeTAWeSATeKAPHeNUNeKHETHeSADHEeSAMEKH",
  "eFEeALEFeAYNeDHADHEeGIMELeDALETHeGHAYNeTETHeZAYNeDHALETHeYODHeTHAWeTHETHdNUMBER ONEeFIFTYdNUMERIC INDICATOR",
  "bNORTH ARABIAN LETTER HEHeLAMeHAHeMEEMeQAFeWAWeES-2eREHeBEHeTEHeES-1eKAFeNOONeKHAHeSADeES-3eFEHeALEFeAINeDAD",
  "eGEEMeDALeGHAINeTAHeZAINeTHALeYEHeTHEHeZAHdNUMBER ONEeTENeTWENTY",
  "10AC0 aMANICHAEAN LETTER ALEPHcBETHcBHETHcGIMELcGHIMELcDALETHcHEcWAWbSIGN UDbLETTER ZAYINcZHAYINcJAYINcJHAYIN",
  "cHETHcTETHcYODHcKAPHcXAPHcKHAPHcLAMEDHcDHAMEDHcTHAMEDHcMEMcNUNcSAMEKHcAYINcAAYINcPEcFEcSADHEcQOPHcXOPHcQHOPH",
  "cRESHcSHINcSSHINcTAWbABBREVIATION MARK ABOVEdBELOW",
  "10AEB bNUMBER ONEcFIVEcTENcTWENTYcONE HUNDREDbPUNCTUATION STARcFLEURONcDOUBLE DOT WITHIN DOTcDOT WITHIN DOTcDOT",
  "cTWO DOTScLINE FILLER",
  "10B00 aAVESTAN LETTER AcAAcAOcAAOcANcAANcAEcAEEcEcEEcOcOOcIcIIcUcUUcKEcXEcXYEcXVEcGEcGGEcGHEcCEcJEcTEcTHEcDEcDHE",
  "cTTEcPEcFEcBEcBHEcNGEcNGYEcNGVEcNEcNYEcNNEcMEcHMEcYYEcYEcVEcREcLEcSEcZEcSHEcZHEcSHYEcSSHEcHE",
  "10B39 bABBREVIATION MARKaTINY TWO DOTS OVER ONE DOT PUNCTUATIONaSMALL TWO DOTS OVER ONE DOT PUNCTUATION",
  "aLARGE TWO DOTS OVER ONE DOT PUNCTUATIONbONE DOT OVER TWO DOTS PUNCTUATIONbTWO RINGS OVER ONE RING PUNCTUATION",
  "bONE RING OVER TWO RINGS PUNCTUATIONaINSCRIPTIONAL PARTHIAN LETTER ALEPHdBETHdGIMELdDALETHdHEdWAWdZAYINdHETH",
  "dTETHdYODHdKAPHdLAMEDHdMEMdNUNdSAMEKHdAYINdPEdSADHEdQOPHdRESHdSHINdTAW",
  "10B58 cNUMBER ONEdTWOdTHREEdFOURdTENdTWENTYdONE HUNDREDeTHOUSANDbPAHLAVI LETTER ALEPHdBETHdGIMELdDALETHdHE",
  "dWAW-AYIN-RESHdZAYINdHETHdTETHdYODHdKAPHdLAMEDHdMEM-QOPHdNUNdSAMEKHdPEdSADHEdSHINdTAW",
  "10B78 cNUMBER ONEdTWOdTHREEdFOURdTENdTWENTYdONE HUNDREDeTHOUSANDaPSALTER PAHLAVI LETTER ALEPHdBETHdGIMELdDALETH",
  "dHEdWAW-AYIN-RESHdZAYINdHETHdYODHdKAPHdLAMEDHdMEM-QOPHdNUNdSAMEKHdPEdSADHEdSHINdTAW",
  "10B99 cSECTION MARKcTURNED SECTION MARKcFOUR DOTS WITH CROSSfDOT",
  "10BA9 cNUMBER ONEdTWOdTHREEdFOURdTENdTWENTYdONE HUNDRED",
  "10C00 aOLD TURKIC LETTER ORKHON AdYENISEI AeAEdORKHON IdYENISEI IeEdORKHON OeOEdYENISEI OEdORKHON ABdYENISEI AB",
  "dORKHON AEBdYENISEI AEBdORKHON AGdYENISEI AGdORKHON AEGdYENISEI AEGdORKHON ADdYENISEI ADdORKHON AEDeEZ",
  "dYENISEI EZdORKHON AYdYENISEI AYdORKHON AEYdYENISEI AEYdORKHON AEKdYENISEI AEKdORKHON OEKdYENISEI OEKdORKHON AL",
  "dYENISEI ALdORKHON AELeELTeEMeANeAENdYENISEI AENdORKHON ENTdYENISEI ENTdORKHON ENCdYENISEI ENCdORKHON ENY",
  "dYENISEI ENYeANGdORKHON ENGdYENISEI AENGdORKHON EPeOPeICeECdYENISEI ECdORKHON AQdYENISEI AQdORKHON IQdYENISEI IQ",
  "dORKHON OQdYENISEI OQdORKHON ARdYENISEI ARdORKHON AEReASeAESeASHdYENISEI ASHdORKHON ESHdYENISEI ESHdORKHON AT",
  "dYENISEI ATdORKHON AETdYENISEI AETdORKHON OTeBASH",
  "10C80 bHUNGARIAN CAPITAL LETTER AeAAeEBeAMBeECeENCeECSeEDeANDeEeCLOSE EeEEeEFeEGeEGYeEHeIeIIeEJeEKeAKeUNKeELeELY",
  "eEMeENeENYeOeOOeNIKOLSBURG OEeRUDIMENTA OEeOEEeEPeEMPeEReSHORT EReESeESZeETeENTeETYeECHeUeUUeNIKOLSBURG UE",
  "eRUDIMENTA UEeEVeEZeEZSeENT-SHAPED SIGNeUS",
  "10CC0 cSMALL LETTER AeAAeEBeAMBeECeENCeECSeEDeANDeEeCLOSE EeEEeEFeEGeEGYeEHeIeIIeEJeEKeAKeUNKeELeELYeEMeENeENYeO",
  "eOOeNIKOLSBURG OEeRUDIMENTA OEeOEEeEPeEMPeEReSHORT EReESeESZeETeENTeETYeECHeUeUUeNIKOLSBURG UEeRUDIMENTA UEeEV",
  "eEZeEZSeENT-SHAPED SIGNeUS",
  "10CFA cNUMBER ONEdFIVEdTENdFIFTYdONE HUNDREDeTHOUSANDaHANIFI ROHINGYA LETTER AdBAdPAdTAdTTAdJAdCAdHAdKHAdFAdDA",
  "dDDAdRAdRRAdZAdSAdSHAdKAdGAdLAdMAdNAdWAdKINNA WAdYAdKINNA YAdNGAdNYAdVAcVOWEL AdIdUdEdOcMARK SAKINdNA KHONNA",
  "cSIGN HARBAHAYdTAHALAdTANAdTASSI",
  "10D30 cDIGIT ZEROdONEdTWOdTHREEdFOURdFIVEdSIXdSEVENdEIGHTdNINE",
  "10E60 aRUMI DIGIT ONEcTWOcTHREEcFOURcFIVEcSIXcSEVENcEIGHTcNINEbNUMBER TENcTWENTYcTHIRTYcFORTYcFIFTYcSIXTY",
  "cSEVENTYcEIGHTYcNINETYcONE HUNDREDcTWO HUNDREDcTHREE HUNDREDcFOUR HUNDREDcFIVE HUNDREDcSIX HUNDREDcSEVEN HUNDRED",
  "cEIGHT HUNDREDcNINE HUNDREDbFRACTION ONE HALFdQUARTERdTHIRDcTWO THIRDS",
  "10E80 aYEZIDI LETTER ELIFcBEcPEcPHEcTHEcSEcCIMcCHIMcCHHIMcHHAcXAcDALcZALcRAcRHAcZAcJAcSINcSHINcSADcDADcTAcZEcEYN",
  "cXHEYNcFAcVAdALTERNATE FORMcQAFcKAFcKHAFcGAFcLAMcMIMcNUNcUMcWAWcOWcEWcHAYcYOTcET",
  "10EAB bCOMBINING HAMZA MARKcMADDA MARKbHYPHENATION MARK",
  "10EB0 bLETTER LAM WITH DOT ABOVEcYOT WITH CIRCUMFLEX ABOVE",
  "10F00 aOLD SOGDIAN LETTER ALEPHdFINAL ALEPHdBETHdFINAL BETHdGIMELdHEdFINAL HEdWAWdZAYINdHETHdYODHdKAPHdLAMEDH",
  "dMEMdNUNdFINAL NUNfWITH VERTICAL TAILdSAMEKHdAYINdALTERNATE AYINdPEdSADHEdFINAL SADHEfWITH VERTICAL TAIL",
  "dRESH-AYIN-DALETHdSHINdTAWdFINAL TAWfWITH VERTICAL TAILcNUMBER ONEdTWOdTHREEdFOURdFIVEdTENdTWENTYdTHIRTY",
  "dONE HUNDREDcFRACTION ONE HALFcLIGATURE AYIN-DALETH",
  "10F30 aSOGDIAN LETTER ALEPHcBETHcGIMELcHEcWAWcZAYINcHETHcYODHcKAPHcLAMEDHcMEMcNUNcSAMEKHcAYINcPEcSADHEcRESH-AYIN",
  "cSHINcTAWcFETHcLESHbINDEPENDENT SHINbCOMBINING DOT BELOWcTWO DOTS BELOWcDOT ABOVEcTWO DOTS ABOVEcCURVE ABOVE",
  "dBELOWcHOOK ABOVEdBELOWcLONG HOOK BELOWcRESH BELOWcSTROKE BELOWbNUMBER ONEcTENcTWENTYcONE HUNDRED",
  "bPUNCTUATION TWO VERTICAL BARSfWITH DOTScCIRCLE WITH DOTcTWO CIRCLES WITH DOTScHALF CIRCLE WITH DOT",
  "10F70 aOLD UYGHUR LETTER ALEPHdBETHdGIMEL-HETHdWAWdZAYINdFINAL HETHdYODHdKAPHdLAMEDHdMEMdNUNdSAMEKHdPEdSADHE",
  "dRESHdSHINdTAWdLESHcCOMBINING DOT ABOVEeBELOWdTWO DOTS ABOVEfBELOWcPUNCTUATION BARdTWO BARSeDOTSdFOUR DOTS",
  "10FB0 aCHORASMIAN LETTER ALEPHcSMALL ALEPHcBETHcGIMELcDALETHcHEcWAWcCURLED WAWcZAYINcHETHcYODHcKAPHcLAMEDHcMEM",
  "cNUNcSAMEKHcAYINcPEcRESHcSHINcTAWbNUMBER ONEcTWOcTHREEcFOURcTENcTWENTYcONE HUNDRED",
  "10FE0 aELYMAIC LETTER ALEPHcBETHcGIMELcDALETHcHEcWAWcZAYINcHETHcTETHcYODHcKAPHcLAMEDHcMEMcNUNcSAMEKHcAYINcPE",
  "cSADHEcQOPHcRESHcSHINcTAWbLIGATURE ZAYIN-YODH",
  "11000 aBRAHMI SIGN CANDRABINDUcANUSVARAcVISARGAcJIHVAMULIYAcUPADHMANIYAbLETTER AcAAcIcIIcUcUUcVOCALIC RdRRdLdLL",
  "cEcAIcOcAUcKAcKHAcGAcGHAcNGAcCAcCHAcJAcJHAcNYAcTTAcTTHAcDDAcDDHAcNNAcTAcTHAcDAcDHAcNAcPAcPHAcBAcBHAcMAcYAcRAcLA",
  "cVAcSHAcSSAcSAcHAcLLAcOLD TAMIL LLLAeRRAeNNNAbVOWEL SIGN AAdBHATTIPROLU AAdIdIIdUdUUdVOCALIC ReRReLeLLdEdAIdOdAU",
  "bVIRAMAbDANDAbDOUBLE DANDAbPUNCTUATION DOTcDOUBLE DOTcLINEcCRESCENT BARcLOTUS",
  "11052 bNUMBER ONEcTWOcTHREEcFOURcFIVEcSIXcSEVENcEIGHTcNINEcTENcTWENTYcTHIRTYcFORTYcFIFTYcSIXTYcSEVENTYcEIGHTY",
  "cNINETYcONE HUNDREDdTHOUSANDbDIGIT ZEROcONEcTWOcTHREEcFOURcFIVEcSIXcSEVENcEIGHTcNINEbSIGN OLD TAMIL VIRAMA",
  "bLETTER OLD TAMIL SHORT EfObVOWEL SIGN OLD TAMIL SHORT EgObLETTER OLD TAMIL LLA",
  "1107F bNUMBER JOINERaKAITHI SIGN CANDRABINDUcANUSVARAcVISARGAbLETTER AcAAcIcIIcUcUUcEcAIcOcAUcKAcKHAcGAcGHAcNGA",
  "cCAcCHAcJAcJHAcNYAcTTAcTTHAcDDAcDDDHAcDDHAcRHAcNNAcTAcTHAcDAcDHAcNAcPAcPHAcBAcBHAcMAcYAcRAcLAcVAcSHAcSSAcSAcHA",
  "bVOWEL SIGN AAdIdIIdUdUUdEdAIdOdAUbSIGN VIRAMAcNUKTAbABBREVIATION SIGNbENUMERATION SIGNbNUMBER SIGNbSECTION MARK",
  "bDOUBLE SECTION MARKbDANDAbDOUBLE DANDAbVOWEL SIGN VOCALIC R",
  "110CD bNUMBER SIGN ABOVE",
  "110D0 aSORA SOMPENG LETTER SAHdTAHdBAHdCAHdDAHdGAHdMAHdNGAHdLAHdNAHdVAHdPAHdYAHdRAHdHAHdKAHdJAHdNYAHdAHdEEHdIH",
  "dUHdOHdEHdMAE",
  "110F0 cDIGIT ZEROdONEdTWOdTHREEdFOURdFIVEdSIXdSEVENdEIGHTdNINE",
  "11100 aCHAKMA SIGN CANDRABINDUcANUSVARAcVISARGAbLETTER AAcIcUcEcKAAcKHAAcGAAcGHAAcNGAAcCAAcCHAAcJAAcJHAAcNYAA",
  "cTTAAcTTHAAcDDAAcDDHAAcNNAAcTAAcTHAAcDAAcDHAAcNAAcPAAcPHAAcBAAcBHAAcMAAcYYAAcYAAcRAAcLAAcWAAcSAAcHAA",
  "bVOWEL SIGN AdIdIIdUdUUdEdAIdOdAUdOIbO MARKbAU MARKbVIRAMAbMAAYYAA",
  "11136 bDIGIT ZEROcONEcTWOcTHREEcFOURcFIVEcSIXcSEVENcEIGHTcNINEbSECTION MARKbDANDAbDOUBLE DANDAbQUESTION MARK",
  "bLETTER LHAAbVOWEL SIGN AAdEIbLETTER VAA",
  "11150 aMAHAJANI LETTER AcIcUcEcOcKAcKHAcGAcGHAcCAcCHAcJAcJHAcNYAcTTAcTTHAcDDAcDDHAcNNAcTAcTHAcDAcDHAcNAcPAcPHA",
  "cBAcBHAcMAcRAcLAcVAcSAcHAcRRAbSIGN NUKTAbABBREVIATION SIGNbSECTION MARKbLIGATURE SHRI",
  "11180 aSHARADA SIGN CANDRABINDUcANUSVARAcVISARGAbLETTER AcAAcIcIIcUcUUcVOCALIC RdRRdLdLLcEcAIcOcAUcKAcKHAcGAcGHA",
  "cNGAcCAcCHAcJAcJHAcNYAcTTAcTTHAcDDAcDDHAcNNAcTAcTHAcDAcDHAcNAcPAcPHAcBAcBHAcMAcYAcRAcLAcLLAcVAcSHAcSSAcSAcHA",
  "bVOWEL SIGN AAdIdIIdUdUUdVOCALIC ReRReLeLLdEdAIdOdAUbSIGN VIRAMAcAVAGRAHAcJIHVAMULIYAcUPADHMANIYAbOMbDANDA",
  "bDOUBLE DANDAbABBREVIATION SIGNbSEPARATORbSANDHI MARKbSIGN NUKTAbVOWEL MODIFIER MARKbEXTRA SHORT VOWEL MARK",
  "bSUTRA MARKbVOWEL SIGN PRISHTHAMATRA EbSIGN INVERTED CANDRABINDUbDIGIT ZEROcONEcTWOcTHREEcFOURcFIVEcSIXcSEVEN",
  "cEIGHTcNINEbEKAMbSIGN SIDDHAMbHEADSTROKEbCONTINUATION SIGNbSECTION MARK-1+",
  "111E1 aSINHALA ARCHAIC DIGIT ONEdTWOdTHREEdFOURdFIVEdSIXdSEVENdEIGHTdNINEcNUMBER TENdTWENTYdTHIRTYdFORTYdFIFTY",
  "dSIXTYdSEVENTYdEIGHTYdNINETYdONE HUNDREDeTHOUSAND",
  "11200 aKHOJKI LETTER AcAAcIcUcEcAIcOcAUcKAcKHAcGAcGGAcGHAcNGAcCAcCHAcJAcJJA",
  "11213 cNYAcTTAcTTHAcDDAcDDHAcNNAcTAcTHAcDAcDDDAcDHAcNAcPAcPHAcBAcBBAcBHAcMAcYAcRAcLAcVAcSAcHAcLLAbVOWEL SIGN AA",
  "dIdIIdUdEdAIdOdAUbSIGN ANUSVARAcVIRAMAcNUKTAcSHADDAbDANDAbDOUBLE DANDAbWORD SEPARATORbSECTION MARK",
  "bDOUBLE SECTION MARKbABBREVIATION SIGNbSIGN SUKUN",
  "11280 aMULTANI LETTER AcIcUcEcKAcKHAcGA",
  "11288 cGHA",
  "1128A cCAcCHAcJAcJJA",
  "1128F cNYAcTTAcTTHAcDDAcDDDAcDDHAcNNAcTAcTHAcDAcDHAcNAcPAcPHAcBA",
  "1129F cBHAcMAcYAcRAcLAcVAcSAcHAcRRAcRHAbSECTION MARK",
  "112B0 aKHUDAWADI LETTER AcAAcIcIIcUcUUcEcAIcOcAUcKAcKHAcGAcGGAcGHAcNGAcCAcCHAcJAcJJAcJHAcNYAcTTAcTTHAcDDAcDDDA",
  "cRRAcDDHAcNNAcTAcTHAcDAcDHAcNAcPAcPHAcBAcBBAcBHAcMAcYAcRAcLAcVAcSHAcSAcHAbSIGN ANUSVARAbVOWEL SIGN AAdIdIIdUdUU",
  "dEdAIdOdAUbSIGN NUKTAcVIRAMA",
  "112F0 bDIGIT ZEROcONEcTWOcTHREEcFOURcFIVEcSIXcSEVENcEIGHTcNINE",
  "11300 aGRANTHA SIGN COMBINING ANUSVARA ABOVEcCANDRABINDUcANUSVARAcVISARGA",
  "11305 bLETTER AcAAcIcIIcUcUUcVOCALIC RdL",
  "1130F cEEcAI",
  "11313 cOOcAUcKAcKHAcGAcGHAcNGAcCAcCHAcJAcJHAcNYAcTTAcTTHAcDDAcDDHAcNNAcTAcTHAcDAcDHAcNA",
  "1132A cPAcPHAcBAcBHAcMAcYAcRA",
  "11332 cLAcLLA",
  "11335 cVAcSHAcSSAcSAcHA",
  "1133B aCOMBINING BINDU BELOWaGRANTHA SIGN NUKTAcAVAGRAHAbVOWEL SIGN AAdIdIIdUdUUdVOCALIC ReRR",
  "11347 dEEdAI",
  "1134B dOOdAUbSIGN VIRAMA",
  "11350 bOM",
  "11357 bAU LENGTH MARK",
  "1135D bSIGN PLUTAbLETTER VEDIC ANUSVARAdDOUBLE ANUSVARAcVOCALIC RRdLLbVOWEL SIGN VOCALIC LeLL",
  "11366 aCOMBINING GRANTHA DIGIT ZEROdONEdTWOdTHREEdFOURdFIVEdSIX",
  "11370 cLETTER AdKAdNAdVIdPA",
  "11400 aNEWA LETTER AcAAcIcIIcUcUUcVOCALIC RdRRdLdLLcEcAIcOcAUcKAcKHAcGAcGHAcNGAcNGHAcCAcCHAcJAcJHAcNYAcNYHAcTTA",
  "cTTHAcDDAcDDHAcNNAcTAcTHAcDAcDHAcNAcNHAcPAcPHAcBAcBHAcMAcMHAcYAcRAcRHAcLAcLHAcWAcSHAcSSAcSAcHAbVOWEL SIGN AAdI",
  "dIIdUdUUdVOCALIC ReRReLeLLdEdAIdOdAUbSIGN VIRAMAcCANDRABINDUcANUSVARAcVISARGAcNUKTAcAVAGRAHAcFINAL ANUSVARAbOM",
  "bSIDDHIbDANDAbDOUBLE DANDAbCOMMAbGAP FILLERbABBREVIATION SIGNbDIGIT ZEROcONEcTWOcTHREEcFOURcFIVEcSIXcSEVENcEIGHT",
  "cNINEbDOUBLE COMMAbPLACEHOLDER MARK",
  "1145D bINSERTION SIGNbSANDHI MARKbLETTER VEDIC ANUSVARAbSIGN JIHVAMULIYAcUPADHMANIYA",
  "11480 aTIRHUTA ANJIbLETTER AcAAcIcIIcUcUUcVOCALIC RdRRdLdLLcEcAIcOcAUcKAcKHAcGAcGHAcNGAcCAcCHAcJAcJHAcNYAcTTA",
  "cTTHAcDDAcDDHAcNNAcTAcTHAcDAcDHAcNAcPAcPHAcBAcBHAcMAcYAcRAcLAcVAcSHAcSSAcSAcHAbVOWEL SIGN AAdIdIIdUdUUdVOCALIC R",
  "eRReLeLLdEdSHORT EdAIdOdSHORT OdAUbSIGN CANDRABINDUcANUSVARAcVISARGAcVIRAMAcNUKTAcAVAGRAHAbGVANG",
  "bABBREVIATION SIGNbOM",
  "114D0 bDIGIT ZEROcONEcTWOcTHREEcFOURcFIVEcSIXcSEVENcEIGHTcNINE",
  "11580 aSIDDHAM LETTER AcAAcIcIIcUcUUcVOCALIC RdRRdLdLLcEcAIcOcAUcKAcKHAcGAcGHAcNGAcCAcCHAcJAcJHAcNYAcTTAcTTHA",
  "cDDAcDDHAcNNAcTAcTHAcDAcDHAcNAcPAcPHAcBAcBHAcMAcYAcRAcLAcVAcSHAcSSAcSAcHAbVOWEL SIGN AAdIdIIdUdUUdVOCALIC ReRR",
  "115B8 dEdAIdOdAUbSIGN CANDRABINDUcANUSVARAcVISARGAcVIRAMAcNUKTAcSIDDHAMbDANDAbDOUBLE DANDAbSEPARATOR DOTcBAR",
  "bREPETITION MARK-1++bEND OF TEXT MARKbSECTION MARK WITH TRIDENT AND U-SHAPED ORNAMENTSgDOTTED CRESCENTS",
  "eRAYS AND DOTTED CRESCENTShDOUBLE CRESCENTShTRIPLE CRESCENTSdDOUBLE RINGfWITH RAYSdWITH DOUBLE CRESCENTS",
  "eTRIPLE CRESCENTSeQUADRUPLE CRESCENTSeSEPTUPLE CRESCENTSeCIRCLES AND RAYSgTWO ENCLOSURESgFOUR ENCLOSURES",
  "bLETTER THREE-CIRCLE ALTERNATE IcTWO-CIRCLE ALTERNATE IeIIcALTERNATE UbVOWEL SIGN ALTERNATE UeUU",
  "11600 aMODI LETTER AcAAcIcIIcUcUUcVOCALIC RdRRdLdLLcEcAIcOcAUcKAcKHAcGAcGHAcNGAcCAcCHAcJAcJHAcNYAcTTAcTTHAcDDA",
  "cDDHAcNNAcTAcTHAcDAcDHAcNAcPAcPHAcBAcBHAcMAcYAcRAcLAcVAcSHAcSSAcSAcHAcLLAbVOWEL SIGN AAdIdIIdUdUUdVOCALIC ReRReL",
  "eLLdEdAIdOdAUbSIGN ANUSVARAcVISARGAcVIRAMAcARDHACANDRAbDANDAbDOUBLE DANDAbABBREVIATION SIGNbSIGN HUVA",
  "11650 bDIGIT ZEROcONEcTWOcTHREEcFOURcFIVEcSIXcSEVENcEIGHTcNINE",
  "11660 aMONGOLIAN BIRGA WITH ORNAMENTbROTATED BIRGAbDOUBLE BIRGA WITH ORNAMENTbTRIPLE BIRGA WITH ORNAMENT",
  "bBIRGA WITH DOUBLE ORNAMENTbROTATED BIRGA WITH ORNAMENTeDOUBLE ORNAMENTbINVERTED BIRGAdWITH DOUBLE ORNAMENT",
  "bSWIRL BIRGAdWITH ORNAMENTeDOUBLE ORNAMENTbTURNED SWIRL BIRGA WITH DOUBLE ORNAMENT",
  "11680 aTAKRI LETTER AcAAcIcIIcUcUUcEcAIcOcAUcKAcKHAcGAcGHAcNGAcCAcCHAcJAcJHAcNYAcTTAcTTHAcDDAcDDHAcNNAcTAcTHAcDA",
  "cDHAcNAcPAcPHAcBAcBHAcMAcYAcRAcLAcVAcSHAcSAcHAcRRAbSIGN ANUSVARAcVISARGAbVOWEL SIGN AAdIdIIdUdUUdEdAIdOdAU",
  "bSIGN VIRAMAcNUKTAbLETTER ARCHAIC KHAbABBREVIATION SIGN",
  "116C0 bDIGIT ZEROcONEcTWOcTHREEcFOURcFIVEcSIXcSEVENcEIGHTcNINE",
  "11700 aAHOM LETTER KAcKHAcNGAcNAcTAcALTERNATE TAcPAcPHAcBAcMAcJAcCHAcTHAcRAcLAcSAcNYAcHAcAcDAcDHAcGA",
  "cALTERNATE GAcGHAcBHAcJHAcALTERNATE BA",
  "1171D bCONSONANT SIGN MEDIAL LAeRAeLIGATING RAbVOWEL SIGN AdAAdIdIIdUdUUdEdAWdOdAIdAMbSIGN KILLER",
  "11730 bDIGIT ZEROcONEcTWOcTHREEcFOURcFIVEcSIXcSEVENcEIGHTcNINEbNUMBER TENcTWENTYbSIGN SMALL SECTIONcSECTION",
  "cRULAIbSYMBOL VIbLETTER CAcTTAcTTHAcDDAcDDHAcNNAcLLA",
  "11800 aDOGRA LETTER AcAAcIcIIcUcUUcEcAIcOcAUcKAcKHAcGAcGHAcNGAcCAcCHAcJAcJHAcNYAcTTAcTTHAcDDAcDDHAcNNAcTAcTHAcDA",
  "cDHAcNAcPAcPHAcBAcBHAcMAcYAcRAcLAcVAcSHAcSSAcSAcHAcRRAbVOWEL SIGN AAdIdIIdUdUUdVOCALIC ReRRdEdAIdOdAU",
  "bSIGN ANUSVARAcVISARGAcVIRAMAcNUKTAbABBREVIATION SIGN",
  "118A0 aWARANG CITI CAPITAL LETTER NGAAeAeWIeYUeYAeYOeIIeUUeEeOeANGeGAeKOeENYeYUJeUCeENNeODDeTTEeNUNGeDAeATeAMeBU",
  "ePUeHIYOeHOLOeHORReHAReSSUUeSIIeVIYOcSMALL LETTER NGAAeAeWIeYUeYAeYOeIIeUUeEeOeANGeGAeKOeENYeYUJeUCeENNeODDeTTE",
  "eNUNGeDAeATeAMeBUePUeHIYOeHOLOeHORReHAReSSUUeSIIeVIYOcDIGIT ZEROdONEdTWOdTHREEdFOURdFIVEdSIXdSEVENdEIGHTdNINE",
  "cNUMBER TENdTWENTYdTHIRTYdFORTYdFIFTYdSIXTYdSEVENTYdEIGHTYdNINETY",
  "118FF cOMaDIVES AKURU LETTER AdAAdIdIIdUdUUdE",
  "11909 dO",
  "1190C dKAdKHAdGAdGHAdNGAdCAdCHAdJA",
  "11915 dNYAdTTA",
  "11918 dDDAdDDHAdNNAdTAdTHAdDAdDHAdNAdPAdPHAdBAdBHAdMAdYAdYYAdRAdLAdVAdSHAdSSAdSAdHAdLLAdZAcVOWEL SIGN AAeIeIIeU",
  "eUUeE",
  "11937 eAIeO",
  "1193B cSIGN ANUSVARAdCANDRABINDUdHALANTAcVIRAMAcPREFIXED NASAL SIGNcMEDIAL YAcINITIAL RAcMEDIAL RAcSIGN NUKTA",
  "cDOUBLE DANDAcGAP FILLERcEND OF TEXT MARK",
  "11950 cDIGIT ZEROdONEdTWOdTHREEdFOURdFIVEdSIXdSEVENdEIGHTdNINE",
  "119A0 aNANDINAGARI LETTER AcAAcIcIIcUcUUcVOCALIC RdRR",
  "119AA cEcAIcOcAUcKAcKHAcGAcGHAcNGAcCAcCHAcJAcJHAcNYAcTTAcTTHAcDDAcDDHAcNNAcTAcTHAcDAcDHAcNAcPAcPHAcBAcBHAcMAcYA",
  "cRAcLAcVAcSHAcSSAcSAcHAcLLAcRRAbVOWEL SIGN AAdIdIIdUdUUdVOCALIC ReRR",
  "119DA dEdAIdOdAUbSIGN ANUSVARAcVISARGAcVIRAMAcAVAGRAHAcSIDDHAMbHEADSTROKEbVOWEL SIGN PRISHTHAMATRA E",
  "11A00 aZANABAZAR SQUARE LETTER AcVOWEL SIGN IeUEeUeEeOEeOeAIeAUeREVERSED IdLENGTH MARKcLETTER KAdKHAdGAdGHAdNGA",
  "dCAdCHAdJAdNYAdTTAdTTHAdDDAdDDHAdNNAdTAdTHAdDAdDHAdNAdPAdPHAdBAdBHAdMAdTSAdTSHAdDZAdDZHAdZHAdZAd-AdYAdRAdLAdVA",
  "dSHAdSSAdSAdHAdKSSAcFINAL CONSONANT MARKcSIGN VIRAMAdCANDRABINDUeWITH ORNAMENTdCANDRA WITH ORNAMENTdANUSVARA",
  "dVISARGAcCLUSTER-INITIAL LETTER RAcCLUSTER-FINAL LETTER YAeRAeLAeVAcINITIAL HEAD MARKcCLOSING HEAD MARK",
  "cMARK TSHEGdSHADdDOUBLE SHADdLONG TSHEGcINITIAL DOUBLE-LINED HEAD MARKcCLOSING DOUBLE-LINED HEAD MARKcSUBJOINER",
  "11A50 aSOYOMBO LETTER AbVOWEL SIGN IdUEdUdEdOdOEdAIdAUdVOCALIC ReLcLENGTH MARKbLETTER KAcKHAcGAcGHAcNGAcCAcCHA",
  "cJAcJHAcNYAcTTAcTTHAcDDAcDDHAcNNAcTAcTHAcDAcDHAcNAcPAcPHAcBAcBHAcMAcTSAcTSHAcDZAcZHAcZAc-AcYAcRAcLAcVAcSHAcSSA",
  "cSAcHAcKSSAbSIGN JIHVAMULIYAcUPADHMANIYAbCLUSTER-INITIAL LETTER RAdLAdSHAdSAbFINAL CONSONANT SIGN GeKeNGeDeNeBeM",
  "eReLeSHeSe-AbSIGN ANUSVARAcVISARGAbGEMINATION MARKbSUBJOINERbMARK TSHEGcSHADcDOUBLE SHADcPLUTA",
  "bHEAD MARK WITH MOON AND SUN AND TRIPLE FLAMEiFLAMEgSUNbTERMINAL MARK-1+",
  "11AB0 aCANADIAN SYLLABICS NATTILIK HIdHIIdHOdHOOdHAdHAAdSHRIdSHRIIdSHROdSHROOdSHRAdSHRAAcSPEcSPIcSPOcSPA",
  "aPAU CIN HAU LETTER PAeKAeLAeMAeDAeZAeVAeNGAeHAeGAeKHAeSAeBAeCAeTAeTHAeNAePHAeRAeFAeCHAeAeEeIeOeUeUAeIAeFINAL P",
  "fKfTfMfNfLfWfNGfYdRISING TONE LONGeTONEdSANDHI GLOTTAL STOPdRISING TONE LONG FINALfFINAL",
  "dSANDHI GLOTTAL STOP FINALeTONE LONGeTONEfLONG FINALfFINALdMID-LEVEL TONEdGLOTTAL STOP VARIANT",
  "dMID-LEVEL TONE LONG FINALfFINALdLOW-FALLING TONE LONGeTONEdGLOTTAL STOPdLOW-FALLING TONE LONG FINALfFINAL",
  "dGLOTTAL STOP FINAL",
  "11C00 aBHAIKSUKI LETTER AcAAcIcIIcUcUUcVOCALIC RdRRdL",
  "11C0A cEcAIcOcAUcKAcKHAcGAcGHAcNGAcCAcCHAcJAcJHAcNYAcTTAcTTHAcDDAcDDHAcNNAcTAcTHAcDAcDHAcNAcPAcPHAcBAcBHAcMAcYA",
  "cRAcLAcVAcSHAcSSAcSAcHAbVOWEL SIGN AAdIdIIdUdUUdVOCALIC ReRReL",
  "11C38 dEdAIdOdAUbSIGN CANDRABINDUcANUSVARAcVISARGAcVIRAMAcAVAGRAHAbDANDAbDOUBLE DANDAbWORD SEPARATOR",
  "bGAP FILLER-1+",
  "11C50 bDIGIT ZEROcONEcTWOcTHREEcFOURcFIVEcSIXcSEVENcEIGHTcNINEbNUMBER ONEcTWOcTHREEcFOURcFIVEcSIXcSEVENcEIGHT",
  "cNINEcTENcTWENTYcTHIRTYcFORTYcFIFTYcSIXTYcSEVENTYcEIGHTYcNINETYbHUNDREDS UNIT MARK",
  "11C70 aMARCHEN HEAD MARKbMARK SHADbLETTER KAcKHAcGAcNGAcCAcCHAcJAcNYAcTAcTHAcDAcNAcPAcPHAcBAcMAcTSAcTSHAcDZAcWA",
  "cZHAcZAc-AcYAcRAcLAcSHAcSAcHAcA",
  "11C92 bSUBJOINED LETTER KAdKHAdGAdNGAdCAdCHAdJAdNYAdTAdTHAdDAdNAdPAdPHAdBAdMAdTSAdTSHAdDZAdWAdZHAdZA",
  "11CA9 dYAdRAdLAdSHAdSAdHAdAbVOWEL SIGN AAdIdUdEdObSIGN ANUSVARAcCANDRABINDU",
  "11D00 aMASARAM GONDI LETTER AdAAdIdIIdUdUUdE",
  "11D08 dAIdO",
  "11D0B dAUdKAdKHAdGAdGHAdNGAdCAdCHAdJAdJHAdNYAdTTAdTTHAdDDAdDDHAdNNAdTAdTHAdDAdDHAdNAdPAdPHAdBAdBHAdMAdYAdRAdLA",
  "dVAdSHAdSSAdSAdHAdLLAdKSSAdJNYAdTRAcVOWEL SIGN AAeIeIIeUeUUeVOCALIC R",
  "11D3A eE",
  "11D3C eAIeO",
  "11D3F eAUcSIGN ANUSVARAdVISARGAdNUKTAdCANDRAdHALANTAcVIRAMAcREPHAcRA-KARA",
  "11D50 cDIGIT ZEROdONEdTWOdTHREEdFOURdFIVEdSIXdSEVENdEIGHTdNINE",
  "11D60 aGUNJALA GONDI LETTER AdAAdIdIIdUdUU",
  "11D67 dEEdAI",
  "11D6A dOOdAUdYAdVAdBAdBHAdMAdKAdKHAdTAdTHAdLAdGAdGHAdDAdDHAdNAdCAdCHAdTTAdTTHAdLLAdJAdJHAdDDAdDDHAdNGAdPAdPHAdHA",
  "dRAdSAcVOWEL SIGN AAeIeIIeUeUU",
  "11D90 eEEeAI",
  "11D93 eOOeAUcSIGN ANUSVARAdVISARGAcVIRAMAcOM",
  "11DA0 cDIGIT ZEROdONEdTWOdTHREEdFOURdFIVEdSIXdSEVENdEIGHTdNINE",
  "11EE0 aMAKASAR LETTER KAcGAcNGAcPAcBAcMAcTAcDAcNAcCAcJAcNYAcYAcRAcLAcVAcSAcAbANGKAbVOWEL SIGN IdUdEdObPASSIMBANG",
  "bEND OF SECTION",
  "11FB0 aLISU LETTER YHA",
  "11FC0 aTAMIL FRACTION ONE THREE-HUNDRED-AND-TWENTIETHdONE-HUNDRED-AND-SIXTIETHdEIGHTIETHdSIXTY-FOURTHdFORTIETH",
  "dTHIRTY-SECONDcTHREE EIGHTIETHSdSIXTY-FOURTHScONE TWENTIETHdSIXTEENTH-1+dTENTHdEIGHTHcTHREE TWENTIETHS",
  "dSIXTEENTHScONE FIFTHdQUARTERdHALF-1+cTHREE QUARTERScDOWNSCALING FACTOR KIIZHbSIGN NELcCEVITUcAAZHAAKKUcUZHAKKU",
  "cMUUVUZHAKKUcKURUNIcPATHAKKUcMUKKURUNIcKAACUcPANAMcPONcVARAAKANcPAARAMcKUZHIcVELIbWET CULTIVATION SIGN",
  "bDRY CULTIVATION SIGNbLAND SIGNbSALT PAN SIGNbTRADITIONAL CREDIT SIGNcNUMBER SIGNbCURRENT SIGNbAND ODD SIGN",
  "bSPENT SIGNbTOTAL SIGNbIN POSSESSION SIGNbSTARTING FROM SIGNbSIGN MUTHALIYAcVAKAIYARAA",
  "11FFF bPUNCTUATION END OF TEXTaCUNEIFORM SIGN AdTIMES AeBADeGAN2 TENUeHAeIGIeLAGAR GUNUeMUSHeSAGcA2cAB",
  "dTIMES ASH2eDUN3 GUNUeGALeGAN2 TENUeHAeIGI GUNUeIMINeLAGABeSHESHeU PLUS U PLUS UdGUNUcAB2dTIMES BALAGeGAN2 TENU",
  "eME PLUS ENeSHA3eTAK4cADcAKdTIMES ERIN2eSHITA PLUS GISHcALdTIMES ALeDIM2eGISHeHAeKAD3eKIeSHEeUSHcALANcALEPHcAMAR",
  "dTIMES SHEcANdOVER ANdTHREE TIMESdPLUS NAGA OPPOSING AN PLUS NAGAfSQUAREDcANSHEcAPINcARADdTIMES KURcARKABcASAL2",
  "cASHdZIDA TENUdKABA TENUdOVER ASH TUG2 OVER TUG2 TUG2 OVER TUG2 PAPfOVER ASHhCROSSING ASH OVER ASH OVER ASHcASH2",
  "cASHGABcBAcBADcBAG3cBAHAR2cBALdOVER BALcBALAGcBARcBARA2cBIdTIMES AeGAReIGI GUNUcBUdOVER BU ABfUNdCROSSING BU",
  "cBULUGdOVER BULUGcBURcBUR2cDAcDAGdKISIM5 TIMES A PLUS MASHfAMARfBALAGfBIfGAgPLUS MASHfGIfGIR2fGUDfHAfIRgPLUS LU",
  "fKAKfLAfLUgPLUS MASH2fLUMfNEfPAP PLUS PAPfSIfTAK4fU2 PLUS GIR2fUSHcDAMcDARcDARA3+cDIcDIBcDIMdTIMES SHEcDIM2cDIN",
  "dKASKAL U GUNU DISHcDISHcDUdOVER DUdGUNUdSHESHIGcDUBdTIMES ESH2cDUB2cDUGcDUGUDcDUHcDUNcDUN3dGUNUeGUNUcDUN4cDUR2",
  "cEdTIMES PAPdOVER E NUN OVER NUNcE2dTIMES A PLUS HA PLUS DAeGAReMIeSALeSHEeUcEDINcEGIRcELcENdTIMES GAN2fTENUeME",
  "dCROSSING ENdOPPOSING ENdSQUAREDcERENcERIN2cESH2cEZENdTIMES AfPLUS LALhTIMES LALeANeBADeDUN3 GUNUgGUNUeHAfGUNU",
  "eIGI GUNUeKASKALfSQUAREDeKU3eLAeLAL TIMES LALeLIeLUeU2eUDcGAdGUNUcGA2dTIMES A PLUS DA PLUS HAgHAgIGI",
  "eAB2 TENU PLUS TABeANeASHeASH2 PLUS GALeBADeBAR PLUS RAeBURfPLUS RAeDAeDIeDIM TIMES SHEeDUBeELfPLUS LAeEN",
  "fTIMES GAN2 TENUeGAN2 TENUeGAReGIeGI4fPLUS AeGIR2 PLUS SUeHA PLUS LU PLUS ESH2eHALfPLUS LAeHI PLUS LIeHUB2",
  "eIGI GUNUeISH PLUS HU PLUS ASHeKAKeKASKALeKIDfPLUS LALeKU3 PLUS ANeLAeME PLUS ENeMIeNUNfOVER NUNePAeSALeSAReSHE",
  "fPLUS TUReSHIDeSUMeTAK4eUeUDfPLUS DUdOVER GA2cGABAdCROSSING GABAcGADdOVER GAD GAR OVER GARcGAL",
  "dGAD OVER GAD GAR OVER GARcGALAMcGAMcGANcGAN2dTENUdOVER GAN2dCROSSING GAN2cGARcGAR3cGASHANcGESHTINdTIMES KURcGI",
  "dTIMES EeUdCROSSING GIcGI4dOVER GI4dCROSSING GI4cGIDIMcGIR2dGUNUcGIR3dTIMES A PLUS IGIeGAN2 TENUeIGIeLU PLUS IGI",
  "ePAcGISALcGISHdCROSSING GISHdTIMES BADeTAK4dTENUcGUdCROSSING GUcGU2dTIMES KAKfTIMES IGI GUNUeNUNeSAL PLUS TUG2",
  "dGUNUcGUDdTIMES A PLUS KUReKURdOVER GUD LUGALcGULcGUMdTIMES SHEcGURcGUR7cGURUNcGURUSHcHAdTENUdGUNUcHALcHI",
  "dTIMES ASHeASH2eBADeDISHeGADeKINeNUNeSHEeUcHUcHUB2dTIMES ANeHALeKASKALeLISHeUDcHUL2cIdAcIBcIDIMdOVER IDIM BUR",
  "fSQUAREDcIGcIGIdDIBdRIdOVER IGI SHIR OVER SHIR UD OVER UDdGUNUcILdTIMES GAN2 TENUcIL2cIMdTIMES TAK4dCROSSING IM",
  "dOPPOSING IMdSQUAREDcIMINcINcIRcISHcKAdTIMES AeADfPLUS KU3eASH2eBADeBALAGeBAReBIeERIN2eESH2eGAeGALeGAN2 TENUeGAR",
  "fPLUS SHA3 PLUS AeGIeGIR2eGISH PLUS SARfCROSSING GISHeGUeGUR7eIGIeIMeKAKeKIeKIDeLIeLUeMEfPLUS DUgGIgTEeMI",
  "fPLUS NUNUZeNEeNUNePIeRUeSAeSAReSHAeSHEeSHIDeSHUeSIGeSUHUReTAReUeU2eUDeUMUM TIMES PAeUSHeZIcKA2dCROSSING KA2cKAB",
  "cKAD2+++dOVER KAD5cKAKdTIMES IGI GUNUcKALdTIMES BADdCROSSING KALcKAM2cKAM4cKASKAL",
  "dLAGAB TIMES U OVER LAGAB TIMES UdOVER KASKAL LAGAB TIMES U OVER LAGAB TIMES UcKESH2cKIdTIMES BADeUeUDcKIDcKIN",
  "cKISALcKISHcKISIM5dOVER KISIM5cKUdOVER HI TIMES ASH2 KU OVER HI TIMES ASH2cKU3+dVARIANT FORMcKU7cKULdGUNUcKUN",
  "cKURdOPPOSING KURcKUSHU2cKWU318cLAcLAGABdTIMES AfPLUS DA PLUS HAgGARgLALeALeANeASH ZIDA TENUeBADeBIeDAReENeGA",
  "eGAReGUDfPLUS GUDeHAeHALeHI TIMES NUNeIGI GUNUeIMfPLUS HAgLUeKIeKINeKU3eKULfPLUS HI PLUS AeLAGABeLISHeLUeLULeME",
  "fPLUS ENeMUSHeNEeSHE PLUS SUMeSHITA PLUS GISH PLUS ERIN2hTENUeSHU2fPLUS SHU2eSUMeTAGeTAK4",
  "eTE PLUS A PLUS SU PLUS NAeUfPLUS AgU PLUS UeU2 PLUS ASHeUDeUSHdSQUAREDcLAGARdTIMES SHEfPLUS SUMdGUNU",
  "eOVER LAGAR GUNU SHEcLAHSHUcLALdTIMES LALcLAMdTIMES KURfPLUS RUcLIcLILcLIMMU2cLISHcLUdTIMES BADcLU2dTIMES ALeBAD",
  "eESH2fTENUeGAN2 TENUeHI TIMES BADeIMeKAD2+fPLUS ASHeKIeLA PLUS ASHeLAGABeME PLUS ENeNEeNUeSI PLUS ASH",
  "eSIK2 PLUS BUeTUG2dTENUdCROSSING LU2dOPPOSING LU2dSQUAREDdSHESHIGcLU3cLUGALdOVER LUGALdOPPOSING LUGALdSHESHIG",
  "cLUHcLULcLUMdOVER LUMfGAR OVER GARcMAdTIMES TAK4dGUNUcMA2cMAHcMARcMASHcMASH2cMEcMEScMIcMINcMUdOVER MUcMUGdGUNU",
  "cMUNSUBcMURGU2cMUSHdTIMES AeKUReZAdOVER MUSHfTIMES A PLUS NAdCROSSING MUSHcMUSH3dTIMES AfPLUS DIeDIdGUNUcNAcNA2",
  "cNAGAdINVERTEDdTIMES SHU TENUdOPPOSING NAGAcNAGARcNAM NUTILLUcNAMcNAM2cNEdTIMES AeUDdSHESHIGcNIdTIMES EcNI2cNIM",
  "dTIMES GAN2 TENUeGAR PLUS GAN2 TENUcNINDA2dTIMES ANeASHfPLUS ASHeGUDeME PLUS GAN2 TENUeNEeNUNeSHEfPLUS A ANgASH",
  "hPLUS ASHeU2 PLUS ASHeUSHcNISAGcNUcNU11cNUNdLAGAR TIMES GARfMASHfSALgOVER NUN LAGAR TIMES SALfUSHdTENUdOVER NUN",
  "dCROSSING NUNfLAGAR OVER LAGARcNUNUZdAB2 TIMES ASHGABfBIfDUGfGUDfIGI GUNUfKAD3fLAfNEfSILA3fU2dKISIM5 TIMES BIgU",
  "cPAcPADcPANcPAPcPESH2cPIdTIMES AeABeBIeBUeEeIeIBeUeU2dCROSSING PIcPIRIGdTIMES KALeUDeZAdOPPOSING PIRIGcRAcRABcRI",
  "cRUcSAcSAG NUTILLUcSAGdTIMES AeDUeDUBeHAeKAKeKUReLUMeMIeNUNeSALeSHIDeTABeU2eUBeUMeUReUSHdOVER SAGdGUNUcSAL",
  "dLAGAB TIMES ASH2cSANGA2cSARcSHAcSHA3dTIMES AeBADeGISHeNEeSHU2eTUReUfPLUS AcSHA6cSHAB6cSHAR2cSHEdHU",
  "dOVER SHE GAD OVER GAD GAR OVER GARfTAB OVER TAB GAR OVER GARcSHEG9cSHENcSHESHcSHESH2cSHESHLAMcSHIDdTIMES AeIM",
  "cSHIMdTIMES AeBALeBULUGeDINeGAReIGIfGUNUeKUSHU2eLULeMUGeSALcSHINIGcSHIRdTENUdOVER SHIR BUR OVER BURcSHITAcSHU",
  "dOVER INVERTED SHUcSHU2cSHUBURcSIdGUNUcSIGcSIG4dOVER SIG4 SHU2cSIK2cSILA3cSUdOVER SUcSUDcSUD2cSUHURcSUMcSUMASH",
  "cSURcSUR9cTAdASTERISKdTIMES HIeMIdGUNUcTABdOVER TAB NI OVER NI DISH OVER DISHdSQUAREDcTAGdTIMES BIeGUDeSHEeSHU",
  "eTUG2eUDcTAK4cTARcTEdGUNUcTIdTENUcTILcTIRdTIMES TAK4dOVER TIRfGAD OVER GAD GAR OVER GARcTUcTUG2cTUKcTUMcTUR",
  "dOVER TUR ZA OVER ZAcUdGUDdU UdOVER U PA OVER PA GAR OVER GARfSUR OVER SURfU REVERSED OVER U REVERSEDcU2cUBcUD",
  "dKUSHU2dTIMES BADeMIeU PLUS U PLUS UjGUNUdGUNUdSHESHIGeTIMES BADcUDUGcUMdTIMES LAGABeME PLUS DAeSHA3eUcUMBIN",
  "cUMUMdTIMES KASKALePAcUNdGUNUcURdCROSSING URdSHESHIGcUR2dTIMES A PLUS HAgNAeALeHAeNUNeU2fPLUS ASHgBIcUR4cURI",
  "cURI3cURUdTIMES AeASHGABeBAReDUNeGAeGALeGAN2 TENUeGAReGUeHAeIGIeIMeISHeKIeLUMeMINePAeSHEeSIG4eTUeU PLUS GUDeUD",
  "eURUDAcURUDAdTIMES UcUSHdTIMES AeKUeKUReTAK4cUSHXcUSH2cUSHUMXcUTUKIcUZ3dTIMES KASKALcUZUcZAdTENU",
  "dSQUARED TIMES KURcZAGcZAMXcZE2cZIdOVER ZIcZI3cZIBdKABA TENUcZIGcZIZ2cZUcZU5dTIMES AcZUBURcZUMcKAP ELAMITE",
  "cAB TIMES NUNcAB2 TIMES AcAMAR TIMES KUGcDAG KISIM5 TIMES U2 PLUS MASHcDAG3cDISH PLUS SHUcDUB TIMES SHE",
  "cEZEN TIMES GUDeSHEcGA2 TIMES AN PLUS KAK PLUS AeASH2cGE22cGIGcHUSHcKA TIMES ANSHEeASH3eGISHeGUDeHI TIMES ASH2",
  "eLUMePAeSHULeTUeUR2cLAGAB TIMES GIcLU2 SHESHIG TIMES BADdTIMES ESH2 PLUS LALeSHUcMESHcMUSH3 TIMES ZAcNA4cNIN",
  "cNIN9cNINDA2 TIMES BALeGIcNU11 ROTATED NINETY DEGREEScPESH2 ASTERISKcPIR2cSAG TIMES IGI GUNUcTI2cUM TIMES MEcU U",
  "12400 bNUMERIC SIGN TWO ASHdTHREE ASHdFOUR ASHdFIVE ASHdSIX ASHdSEVEN ASHdEIGHT ASHdNINE ASHdTHREE DISH",
  "dFOUR DISHdFIVE DISHdSIX DISHdSEVEN DISHdEIGHT DISHdNINE DISHdFOUR UdFIVE UdSIX UdSEVEN UdEIGHT UdNINE U",
  "dONE GESH2dTWO GESH2dTHREE GESH2dFOUR GESH2dFIVE GESH2dSIX GESH2dSEVEN GESH2dEIGHT GESH2dNINE GESH2dONE GESHU",
  "dTWO GESHUdTHREE GESHUdFOUR GESHUdFIVE GESHUdTWO SHAR2dTHREE SHAR2fVARIANT FORMdFOUR SHAR2dFIVE SHAR2dSIX SHAR2",
  "dSEVEN SHAR2dEIGHT SHAR2dNINE SHAR2dONE SHARUdTWO SHARUdTHREE SHARUfVARIANT FORMdFOUR SHARUdFIVE SHARU",
  "dSHAR2 TIMES GAL PLUS DISHhMINdONE BURUdTWO BURUdTHREE BURUfVARIANT FORMdFOUR BURUdFIVE BURU",
  "dTHREE VARIANT FORM ESH16gESH21dFOUR VARIANT FORM LIMMUgLIMMU4gLIMMU AhBdSIX VARIANT FORM ASH9",
  "dSEVEN VARIANT FORM IMIN3gIMIN AhBdEIGHT VARIANT FORM USSUgUSSU3dNINE VARIANT FORM ILIMMUgILIMMU3+gILIMMU A",
  "dTWO ASH TENUdTHREE ASH TENUdFOUR ASH TENUdFIVE ASH TENUdSIX ASH TENUdONE BAN2dTWO BAN2dTHREE BAN2dFOUR BAN2",
  "fVARIANT FORMdFIVE BAN2fVARIANT FORMdNIGIDAMINdNIGIDAESHdONE ESHE3dTWO ESHE3dONE THIRD DISHdTWO THIRDS DISH",
  "dFIVE SIXTHS DISHdONE THIRD VARIANT FORM AdTWO THIRDS VARIANT FORM AdONE EIGHTH ASHeQUARTER ASH",
  "dOLD ASSYRIAN ONE SIXTHgQUARTERdONE QUARTER GUReHALF GURdELAMITE ONE THIRDeTWO THIRDSeFORTYeFIFTY",
  "dFOUR U VARIANT FORMdFIVE U VARIANT FORMdSIX U VARIANT FORMdSEVEN U VARIANT FORMdEIGHT U VARIANT FORM",
  "dNINE U VARIANT FORM",
  "12470 bPUNCTUATION SIGN OLD ASSYRIAN WORD DIVIDERdVERTICAL COLONdDIAGONAL COLONeTRICOLONeQUADCOLON",
  "12480 bSIGN AB TIMES NUN TENUeSHU2cAD TIMES ESH2cBAD TIMES DISH TENUcBAHAR2 TIMES AB2eNIeZAcBU OVER BU TIMES NA2",
  "cDA TIMES TAK4cDAG TIMES KURcDIM TIMES IGIeU U UcDIM2 TIMES UDcDUG TIMES ANSHEeASHfAT LEFTeDINeDUNeERIN2eGAeGI",
  "eGIR2 GUNUeGISHeHAeHIeIGI GUNUeKASKALeKUReKUSHU2fPLUS KASKALeLAK-020eLAMfTIMES KUReLUH PLUS GISHeMASHeMESeMIeNI",
  "ePIeSHEeSI GUNUcE2 TIMES KURePAPcERIN2 XcESH2 CROSSING ESH2cEZEN SHESHIG TIMES ASHfHIfIGI GUNUfLAfLALfMEfMESfSU",
  "dTIMES SUcGA2 TIMES BAHAR2eDIM GUNUeDUG TIMES IGI GUNUgKASKALeERENeGAeGAR PLUS DIgNEeHA PLUS A",
  "eKUSHU2 PLUS KASKALeLAMfTIMES KUReLUHeMUSHeNEfPLUS E2gGIeSHIMeZIZ2cGABA ROTATED NINETY DEGREEScGESHTIN TIMES U",
  "cGISH TIMES GISH CROSSING GISHcGU2 TIMES IGI GUNUcGUD PLUS GISH TIMES TAK4cHA TENU GUNU",
  "cHI TIMES ASH OVER HI TIMES ASHcKA TIMES BUeKAeU U UeURcLAGAB TIMES ZU OVER ZUcLAK-003cLAK-021cLAK-025cLAK-030",
  "cLAK-050+cLAK-062cLAK-079 OVER LAK-079 GUNUcLAK-080cLAK-081 OVER LAK-081cLAK-092cLAK-130cLAK-142cLAK-210cLAK-219",
  "+cLAK-225cLAK-228cLAK-238cLAK-265+cLAK-343cLAK-347+cLAK-383+cLAK-390cLAK-441cLAK-449dTIMES GUeIGIePAP PLUS LU3",
  "gPAP PLUS LU3eU2 PLUS BAcLAK-450cLAK-457cLAK-470cLAK-483cLAK-490cLAK-492+cLAK-495cLAK-550cLAK-608cLAK-617",
  "dTIMES ASHeBADeDUN3 GUNU GUNUeKU3eLAeTAReTEeU2eUDeURUDAcLAK-636cLAK-648dTIMES DUBeGAeIGIfGUNUeNI",
  "ePAP PLUS PAP PLUS LU3eSHESH PLUS KIeUDeURUDAcLAK-724cLAK-749cLU2 GUNU TIMES ASHdTIMES DISHeHALePAP",
  "fPLUS PAP PLUS LU3eTAK4cMI PLUS ZA7cMUSH OVER MUSH TIMES GAgKAKcNINDA2 TIMES DIM GUNUeGISHeGULeHIeKESH2eLAK-050",
  "eMASHePAP PLUS PAPeUfPLUS UeURUDAcSAG GUNU TIMES HAdTIMES ENeSHE AT LEFTeTAK4cSHA6 TENUcSHE OVER SHEdPLUS HUB2",
  "eNAM2eSARcSHU2 PLUS DUG TIMES NIeE2 TIMES ANcSI TIMES TAK4cTAK4 PLUS SAGcTUM TIMES GAN2 TENUeTHREE DISH",
  "cUR2 INVERTEDdTIMES UDcURU TIMES DARA3eLAK-668eLU3cZA7cZU OVER ZU PLUS SARcZU5 TIMES THREE DISH TENU",
  "12F90 aCYPRO-MINOAN SIGN CM001+cCM004++++++++cCM012BcCM013cCM015cCM017cCM019cCM021cCM023+++++++cCM033++++++++",
  "cCM044cCM046+cCM049+++++++cCM058++++++cCM066+++++++++cCM075BcCM076cCM078++++++++++++++cCM094+++++++++++cCM107+++",
  "cCM112cCM114cCM301+",
  "13000 aEGYPTIAN HIEROGLYPH A001++++cA005AcA006cA006AcA006BcA007+++++++cA014AcA015++cA017AcA018++++++++++++++",
  "cA032AcA033+++++++cA040AcA041+cA042AcA043cA043AcA044+cA045AcA046++++++++++++++++++++++++cB001++++cB005AcB006+++",
  "cC001+cC002AcC002BcC002CcC003+++++++cC010AcC011+++++++++++++cD001+++++++cD008AcD009++++++++++++++++++cD027AcD028",
  "+++cD031AcD032++cD034AcD035+++++++++++cD046AcD047+cD048AcD049+cD050AcD050BcD050CcD050DcD050EcD050FcD050GcD050H",
  "cD050IcD051+cD052AcD053+cD054AcD055++++++++++++cD067AcD067BcD067CcD067DcD067EcD067FcD067GcD067HcE001+++++++",
  "cE008AcE009cE009AcE010++++++cE016AcE017cE017AcE018++cE020AcE021+++++++cE028AcE029+++++cE034AcE036++cF001cF001A",
  "cF002+++++++++++cF013AcF014+++++++cF021AcF022+++++++++cF031AcF032+++++cF037AcF038cF038AcF039++++++cF045AcF046",
  "cF046AcF047cF047AcF048+++cF051AcF051BcF051CcF052+cG001+++++cG006AcG007cG007AcG007BcG008+++cG011AcG012++++++++",
  "cG020AcG021+++++cG026AcG027+++++++++cG036AcG037cG037AcG038+++++cG043AcG044+cG045AcG046++++++++cH001+++++cH006A",
  "cH007+cI001++++cI005AcI006+++cI009AcI010cI010AcI011cI011AcI012+++cK001+++++++cL001+cL002AcL003+++cL006AcL007+",
  "cM001cM001AcM001BcM002+cM003AcM004++++++cM010AcM011+cM012AcM012BcM012CcM012DcM012EcM012FcM012GcM012HcM013++",
  "cM015AcM016cM016AcM017cM017AcM018++++cM022AcM023+cM024AcM025+++cM028AcM029++cM031AcM032+cM033AcM033BcM034++++++",
  "cM040AcM041+++cN001+++++++++++++++++cN018AcN018BcN019++++++cN025AcN026+++++++cN033AcN034cN034AcN035cN035AcN036+",
  "cN037AcN038++++cNL001++++cNL005AcNL006+++++++++++cNL017AcNL018++cNU001+++++++++cNU010AcNU011cNU011AcNU012++++++",
  "cNU018AcNU019+++cNU022AcO001cO001AcO002+++cO005AcO006cO006AcO006BcO006CcO006DcO006EcO006FcO007+++cO010AcO010B",
  "cO010CcO011++++++++cO019AcO020cO020AcO021+++cO024AcO025cO025AcO026+++cO029AcO030cO030AcO031++cO033AcO034++cO036A",
  "cO036BcO036CcO036DcO037+++++++++++++cO050AcO050BcO051cP001cP001AcP002+cP003AcP004+++++++cQ001++++++cR001+cR002A",
  "cR003cR003AcR003BcR004++++++cR010AcR011+++++cR016AcR017++++++++++++cS001+cS002AcS003+++cS006AcS007+++++++cS014A",
  "cS014BcS015++cS017AcS018++++++++cS026AcS026BcS027++++++++cS035AcS036++++++++++cT001++cT003AcT004+++cT007AcT008",
  "cT008AcT009cT009AcT010+cT011AcT012++++cT016AcT017+++++++++++++++cT032AcT033cT033AcT034++cU001+++++cU006AcU006B",
  "cU007++++++++++++++++cU023AcU024+++++cU029AcU030++cU032AcU033+++++++++cV001cV001AcV001BcV001CcV001DcV001EcV001F",
  "cV001GcV001HcV001IcV002cV002AcV003++++cV007AcV007BcV008+++cV011AcV011BcV011CcV012cV012AcV012BcV013+++++++cV020A",
  "cV020BcV020CcV020DcV020EcV020FcV020GcV020HcV020IcV020JcV020KcV020LcV021++cV023AcV024++++cV028AcV029cV029AcV030",
  "cV030AcV031cV031AcV032+cV033AcV034+++cV037AcV038++cV040AcW001++cW003AcW004+++++cW009AcW010cW010AcW011+++cW014A",
  "cW015++cW017AcW018cW018AcW019+++++cW024AcW025cX001+++cX004AcX004BcX005+cX006AcX007+cX008AcY001cY001AcY002++++++",
  "cZ001+cZ002AcZ002BcZ002CcZ002DcZ003cZ003AcZ003BcZ004cZ004AcZ005cZ005AcZ006+++++++++cZ015AcZ015BcZ015CcZ015D",
  "cZ015EcZ015FcZ015GcZ015HcZ015IcZ016cZ016AcZ016BcZ016CcZ016DcZ016EcZ016FcZ016GcZ016HcAA001++++++cAA007AcAA007B",
  "cAA008++++++++++++++++++++++++",
  "13430 cVERTICAL JOINERcHORIZONTAL JOINERcINSERT AT TOP STARTeBOTTOM STARTeTOP ENDeBOTTOM ENDcOVERLAY MIDDLE",
  "cBEGIN SEGMENTcEND SEGMENT",
  "14400 aANATOLIAN HIEROGLYPH A001+++++++++cA010AcA011+++++++++++++++cA026AcA027++++++++++++cA039AcA040+cA041A",
  "cA042+++cA045AcA046cA046AcA046BcA047+++++++++++++++++++cA066AcA066BcA066CcA067++++++++++++++++++++++++++++++",
  "cA097AcA098cA098AcA099+cA100AcA101cA101AcA102cA102AcA103+cA104AcA104BcA104CcA105cA105AcA105BcA106+cA107AcA107B",
  "cA107CcA108++cA110AcA110BcA111++++cA115AcA116+++++++++cA125AcA126+++++++++cA135AcA136+++++++++++++++++++++++++++",
  "+++++++++++++++++++++++++++++++++++++++cA202AcA202BcA203++++cA207AcA208+cA209AcA210+++++cA215AcA216cA216AcA217++",
  "++++++++cA227AcA228+++++++++++++++++++++++++++++++++++++++cA267AcA268+++++++++++++++++++++cA289AcA290++++cA294A",
  "cA295++++cA299AcA300+++++++++cA309AcA310+++++++++++++++++++cA329AcA330+cA332AcA332BcA332CcA333+++cA336AcA336B",
  "cA336CcA337++++++++++++++++++++++cA359AcA360++++cA364AcA365+++cA368AcA369++cA371AcA372+++++++++cA381AcA382",
  "cA383 RA OR RIcA383AcA384++cA386AcA387+++++cA393 EIGHTcA394+++++++++++++++cA410 BEGIN LOGOGRAM MARK",
  "cA410A END LOGOGRAM MARKcA411+++++++++++++++++++++++++++++++++++++++cA450AcA451++++++cA457AcA458++++++++++++++++",
  "+++++++++++++++++++++++cA501+++++++++++++++++++++++++++++",
  "16800 aBAMUM LETTER PHASE-A NGKUE MFONdGBIEE FONdPON MFON PIPAEMGBIEEfPIPAEMBAdNAA MFONdSHUENSHUETdTITA MFON",
  "dNZA MFONdSHINDA PA NJIdPON PA NJI PIPAEMGBIEEgPIPAEMBAdMAEMBGBIEEdTU MAEMBAdNGANGUdMAEMVEUXdMANSUAEdMVEUAENGAM",
  "dSEUNYAMdNTOQPENdKEUKEUTNDAdNKINDIdSUUdNGKUENZEUMdLAPAQdLET KUTdNTAP MFAAdMAEKEUPdPASHAEdGHEUAERAEdPAMSHAE",
  "dMON NGGEUAETdNZUN MEUTdU YUQ NAEdGHEUAEGHEUAEdNTAP NTAAdSISAdMGBASAdMEUNJOMNDEUQdMOOMPUQdKAFAdPA LEERAEWA",
  "dNDA LEERAEWAdPETdMAEMKPENdNIKAdPUPdTUAEPdLUAEPdSONJAMdTEUTEUWENdMAENYIdKETdNDAANGGEUAETdKUOQdMOOMEUTdSHUM",
  "dLOMMAEdFIRIdROMdKPOQdSOQdMAP PIEETdSHIRAEdNTAPdSHOQ NSHUT YUMdNYIT MONGKEUAEQdPAARAEdNKAARAEdUNKNOWNdNGGEN",
  "dMAESIdNJAMdMBANYIdNYETdTEUAENdSOTdPAAMdNSHIEEdMAEMdNYIdKAQdNSHAdVEEdLUdNENdNAQdMBAQcPHASE-B NSHUETdTU MAEMGBIEE",
  "dSIEEdSET TUdLOM NTEUMdMBA MAELEEdKIEEMdYEURAEdMBAARAEdKAMdPEESHIdYAFU LEERAEWAdLAM NSHUT NYAMdNTIEE SHEUOQ",
  "dNDU NJAAdGHEUGHEUAEMdPITdTU NSIEEdSHET NJAQdSHEUAEQTUdMFON TEUAEQdMBIT MBAAKETdNYI NTEUMdKEUPUQdGHEUGHEN",
  "dKEUYEUXdLAANAEdPARUMdVEUMdNGKINDI MVOPdNGGEU MBUdWUAETdSAKEUAEdTAAMdMEUQdNGGUOQeLARGEdMFIYAQdSUEdMBEURI",
  "dMONTIEENdNYAEMAEdPUNGAAMdMEUT NGGEETdFEUXdMBUOQdFEEdKEUAEMdMA NJEUAENAeNJUQAdLETdNGGAAMdNSENdMAdKIQdNGOM",
  "cPHASE-C NGKUE MAEMBAdNZAdYUMdWANGKUOQdNGGENdNDEUAEREEdNGKAQdGHARAEdMBEEKEETdGBAYIdNYIR MKPARAQ MEUNdNTU MBIT",
  "dMBEUMdPIRIEENdNDOMBUdMBAA CABBAGE-TREEdKEUSHEUAEPdGHAPdKEUKAQdYU MUOMAEdNZEUMdMBUEdNSEUAENdMBITdYEUQdKPARAQdKAA",
  "dSEUXdNDIDAdTAASHAEdNJUEQdTITA YUEdSUAETdNGGUAEN NYAMdVEUXdNANSANAQdMA KEUAERIdNTAAdNGGUONdLAPdMBIRIEENdMGBASAQ",
  "dNTEUNGBAdTEUTEUXdNGGUMdFUEdNDEUTdNSAdNSHAQdBUNGdVEUAEPENdMBERAEdRUdNJAEMdLAMdTITUAEPdNSUOT NGOMdNJEEEEdKETdNGGU",
  "dMAESIdMBUAEMdLUdKUTdNJAMdNGOMdWUPdNGGUEETdNSOMdNTENdKUOP NKAARAEdNSUNdNDAMdMA NSIEEdYAAdNDAPdSHUEQdSETFONdMBI",
  "dMAEMBAdMBANYIdKEUSEUXdMBEUXdKEUMdMBAA PICKETdYUWOQdNJEUXdMIEEdMUAEdSHIQdKEN LAWeFATIGUEdNGAQdNAQdLIQdPINdPEN",
  "dTETcPHASE-D MBUOdWAPdNJIdMFONdNJIEEdLIEEdNJEUTdNSHEEdNGGAAMAEdNYAMdWUAENdNGKUNdSHEEdNGKAPdKEUAETMEUNdTEUT",
  "dSHEUAEdNJAPdSUEdKETdYAEMMAEdKUOMdSAPdMFEUTdNDEUXdMALEERIdMEUTdSEUAEQdYENdNJEUAEMdKEUOT MBUAEdNGKEURIdTUdGHAA",
  "dNGKYEEdFEUFEUAETdNDEEdMGBOFUMdLEUAEPdNDONdMONIdMGBEUNdPUUTdMGBIEEdMFOdLUMdNSIEEPdMBAAdKWAETdNYETdTEUAENdSOT",
  "dYUWOQdKEUMdRAEMdTEEEEdNGKEUAEQdMFEUAEdNSIEETdKEUPdPIPdPEUTAEdNYUEdLETdNGGAAMdMFIEEdNGGWAENdYUOMdPAPdYUOPdNDAM",
  "dNTEUMdSUAEdKUNdNGGEUXdNGKIEEdTUOTdMEUNdKUQdNSUMdTEUNdMAENJETdNGGAPdLEUMdNGGUOMdNSHUTdNJUEQdGHEUAEdKUdREN OLD",
  "dTAEdTOQdNYIdRIIdLEEEEdMEEEEdMdSUUdMUdSHIIdSHEUXdKYEEdNUdSHUdNTEEdPEEdNIdSHOQdPUQdMVOPdLOQdREN MUCHdTIdNTUU",
  "dMBAA SEVENdSAQdFAAcPHASE-E NDAPdTOONdMBEUMdLAPdVOMdLOONdPAAdSOMdRAQdNSHUOPdNDUNdPUAEdTAMdNGKAdKPEUXdWUOdSEE",
  "dNGGEUAETdPAAMdTOOdKUOPdLOMdNSHIEEdNGOPdMAEMdNGKEUXdNGOQdNSHUEdRIMGBAdNJEUXdPEEMdSAAdNGGURAEdMGBAdGHEUXdNGKEUAEM",
  "dNJAEMLIdMAPdLOOTdNGGEEEEdNDIQdTAEN NTEUMdSETdPUMdNDAA SOFTNESSdNGGUAESHAE NYAMdYIEEdGHEUNdTUAEdYEUAEdPOdTUMAE",
  "dKEUAEdSUAENdTEUAEQdVEUAEdWEUXdLAAMdPUdTAAQdGHAAMAEdNGEUREUTdSHEUAEQdMGBENdMBEEdNZAQdNKOMdGBETdTUMdKUETdYAP",
  "dNYI CLEAVERdYITdMFEUQdNDIAQdPIEEQdYUEQdLEUAEMdFUEdGBEUXdNGKUPdKETdMAEdNGKAAMIdGHETdFAdNTUMdPEUTdYEUMdNGGEUAE",
  "dNYI BETWEENdNZUQdPOONdMIEEdFUETdNAEdMUAEdGHEUAEdFU IdMVIdPUAQdNGKUMdKUTdPIETdNTAPdYEUAETdNGGUPdPA PEOPLE",
  "dFU CALLdFOMdNJEEdAdTOQdOdIdLAQdPA PLURALdTAAdTAQdNDAA MY HOUSEdSHIQdYEUXdNGUAEdYUAENdYOQ SWIMMINGeCOVERdYUQdYUN",
  "dKEUXdPEUXdNJEE EPOCHdPUEdWUEdFEEdVEEdLUdMIdREUXdRAEdNGUAETdNGAdSHOdSHOQdFU REMEDYdNAdPIdLOQdKOdMENdMAdMAQdTEU",
  "dKIdMONdTENdFAQdGHOMcPHASE-F KAdUdKUdEEdREEdTAEdNYIdLAdRIIdRIEEdMEEEEdTAAdNDAAdNJAEMdMdSUUdSHIIdSIdSEUXdKYEEdKET",
  "dNUAEdNUdNJUAEdYOQdSHUdYAdNSHAdPEUXdNTEEdWUEdPEEdRUdNIdREUXdKENdNGKWAENdNGGAdSHOdPUAEdFOMdWAdLIdLOQdKOdMBENdREN",
  "dMAdMOdMBAAdTETdKPAdSAMBAdVUEQ",
  "16A40 aMRO LETTER TAcNGIcYOcMIMcBAcDAcAcPHIcKHAIcHAOcDAIcCHUcKEAAEcOLcMAEMcNINcPAcOOcOcROcSHIcTHEAcEAcWAcEcKO",
  "cLANcLAcHAIcRIcTEK",
  "16A60 bDIGIT ZEROcONEcTWOcTHREEcFOURcFIVEcSIXcSEVENcEIGHTcNINE",
  "16A6E bDANDAbDOUBLE DANDAaTANGSA LETTER OZcOCcOQcOXcAZcACcAQcAXcVZcVCcVQcVXcEZcECcEQcEXcIZcICcIQcIXcUZcUCcUQcUX",
  "cAWZcAWCcAWQcAWXcUIZcUICcUIQcUIXcFINAL NGcLONG UEXcSHORT UEZdAWXcUECcUEZcUEQcUEXcUIUZcUIUCcUIUQcUIUXcMZcMCcMQcMX",
  "cKAcKHAcGAcNGAcSAcYAcWAcPAcNYAcPHAcBAcMAcNAcHAcLAcHTAcTAcDAcRAcNHAcSHAcCAcTSAcGHAcHTTAcTHAcXAcFAcDHAcCHAcZA",
  "16AC0 bDIGIT ZEROcONEcTWOcTHREEcFOURcFIVEcSIXcSEVENcEIGHTcNINE",
  "16AD0 aBASSA VAH LETTER ENNIdKAdSEdFAdMBEdYIEdGAHdDHIIdKPAHdJOdHWAHdWAdZOdGBUdDOdCEdUWUdTOdBAdVUdYEINdPAdWADDAdA",
  "dOdOOdUdEEdEdI",
  "16AF0 cCOMBINING HIGH TONEdLOW TONEdMID TONEdLOW-MID TONEdHIGH-LOW TONEcFULL STOP",
  "16B00 aPAHAWH HMONG VOWEL KEEBdKEEVdKIBdKIVdKAUBdKAUVdKUBdKUVdKEBdKEVdKAIBdKAIVdKOOBdKOOVdKAWBdKAWVdKUABdKUAV",
  "dKOBdKOVdKIABdKIAVdKABdKAVdKWBdKWVdKAABdKAAVcCONSONANT VAUdNTSAUdLAUdHAUdNLAUdRAUdNKAUdQHAUdYAUdHLAUdMAUdCHAU",
  "dNCHAUdHNAUdPLHAUdNTHAUdNAUdAUdXAUdCAUcMARK CIM TUBeSOeKESeKHAVeSUAMeHOMeTAUMcSIGN VOS THOMeTSHAB CEEBdCIM CHEEM",
  "dVOS THIABeFEEMdXYEEM NTXIVeRHOeTOVeFAIBdVOS SEEVdMEEJ SUABdVOS NRUAdIB YAMdXAUSdCIM TSOV ROG",
  "16B50 cDIGIT ZEROdONEdTWOdTHREEdFOURdFIVEdSIXdSEVENdEIGHTdNINE",
  "16B5B cNUMBER TENSdHUNDREDSdTEN THOUSANDSdMILLIONSdHUNDRED MILLIONSdTEN BILLIONSdTRILLIONS",
  "16B63 cSIGN VOS LUBdXYOOdHLIdTHIRD-STAGE HLIdZWJ THAJdHNUBdNQIGdXIABdNTUJdAVdTXHEEJ CEEVdMEEJ TSEEBdTAUdLOSdMUS",
  "dCIM HAIS LUS NTOG NTOGeCUAM TSHOOJeTXWVfCHWVePUB DAWBeNRES TOS",
  "16B7D cCLAN SIGN TSHEEJeYEEGeLISeLAUJeXYOOJeKOOeHAWJeMUASeTHOJeTSABePHABeKHABeHAMeVAJeFAJeYAJeTSWBeKWMeVWJ",
  "16E40 aMEDEFAIDRIN CAPITAL LETTER MdSdVdWdATIUdZdKPdPdTdGdFdIdKdAdJdEdBdCdUdYUdLdQdHPdNYdXdDdOEdNdRdOdAIdY",
  "bSMALL LETTER MdSdVdWdATIUdZdKPdPdTdGdFdIdKdAdJdEdBdCdUdYUdLdQdHPdNYdXdDdOEdNdRdOdAIdYbDIGIT ZEROcONEcTWOcTHREE",
  "cFOURcFIVEcSIXcSEVENcEIGHTcNINEbNUMBER TENcELEVENcTWELVEcTHIRTEENcFOURTEENcFIFTEENcSIXTEENcSEVENTEENcEIGHTEEN",
  "cNINETEENbDIGIT ONE ALTERNATE FORMcTWO ALTERNATE FORMcTHREE ALTERNATE FORMbCOMMAbFULL STOPbSYMBOL AIVA",
  "bEXCLAMATION OH",
  "16F00 aMIAO LETTER PAcBAcYI PAcPLAcMAcMHAcARCHAIC MAcFAcVAcVFAcTAcDAcYI TTAdTAcTTAcDDAcNAcNHAcYI NNAcARCHAIC NA",
  "cNNAcNNHAcLAcLYAcLHAcLHYAcTLHAcDLHAcTLHYAcDLHYAcKAcGAcYI KAcQAcQGAcNGAcNGHAcARCHAIC NGAcHAcXAcGHAcGHHAcTSSAcDZZA",
  "cNYAcNYHAcTSHAcDZHAcYI TSHAdDZHAcREFORMED TSHAcSHAcSSAcZHAcZSHAcTSAcDZAcYI TSAcSAcZAcZSAcZZAcZZSAcARCHAIC ZZA",
  "cZZYAcZZSYAcWAcAHcHHAcBRIcSYIcDZYIcTEcTSEcRTE",
  "16F4F bSIGN CONSONANT MODIFIER BARbLETTER NASALIZATIONbSIGN ASPIRATIONcREFORMED VOICINGdASPIRATIONbVOWEL SIGN A",
  "dAAdAHHdANdANGdOdOOdWOdWdEdENdENGdOEYdIdIAdIANdIANGdIOdIEdIIdIUdINGdUdUAdUANdUANGdUUdUEIdUNGdYdYIdAEdAEEdERR",
  "dROUNDED ERRdERdROUNDED ERdAIdEIdAUdOUdNdNGdUOGdYUIdOGdOERdVWdIGdEAdIONGdUI",
  "16F8F bTONE RIGHTcTOP RIGHTcABOVEcBELOWbLETTER TONE-2++++++cREFORMED TONE-1+dTONE-4++dTONE-8",
  "16FE0 aTANGUT ITERATION MARKaNUSHU ITERATION MARKaOLD CHINESE HOOK MARKcITERATION MARK",
  "aKHITAN SMALL SCRIPT FILLER",
  "16FF0 aVIETNAMESE ALTERNATE READING MARK CAeNHAY",
  "18800 aTANGUT COMPONENT-001+++++++++++++++++++++++++++++++++++++++++++++++++++++++++++++++++++++++++++++++++++++",
  "++++++++++++++++++++++++++++++++++++++++++++++++++++++++++++++++++++++++++++++++++++++++++++++++++++++++++++++++",
  "++++++++++++++++++++++++++++++++++++++++++++++++++++++++++++++++++++++++++++++++++++++++++++++++++++++++++++++++",
  "++++++++++++++++++++++++++++++++++++++++++++++++++++++++++++++++++++++++++++++++++++++++++++++++++++++++++++++++",
  "++++++++++++++++++++++++++++++++++++++++++++++++++++++++++++++++++++++++++++++++++++++++++++++++++++++++++++++++",
  "++++++++++++++++++++++++++++++++++++++++++++++++++++++++++++++++++++++++++++++++++++++++++++++++++++++++++++++++",
  "++++++++++++++++++++++++++++++++++++++++++++++++++++++++++++++++++++++++++++++++++++++++++++++++++++++++++++++++",
  "++++++++++",
  "1AFF0 aKATAKANA LETTER MINNAN TONE-2+++",
  "1AFF5 dTONE-7+dNASALIZED TONE-1++++",
  "1AFFD eTONE-7+",
  "1B000 cARCHAIC EaHIRAGANA LETTER ARCHAIC YEaHENTAIGANA LETTER A-1++cA-WOcI-1+++cU-1++++cE-2++++cO-1++cKA-1++++++",
  "++++cKA-KEcKI-1+++++++cKU-1++++++cKE-1+++++cKO-1++cKO-KIcSA-1+++++++cSI-1+++++cSU-1+++++++cSE-1++++cSO-1++++++",
  "cTA-1+++cTI-1++++++cTU-1+++cTU-TOcTE-1++++++++cTO-1+++++cTO-RAcNA-1++++++++cNI-1++++++cNI-TEcNU-1++cNE-1+++++",
  "cNE-KOcNO-1++++cHA-1++++++++++cHI-1++++++cHU-1++cHE-1++++++cHO-1+++++++cMA-1++++++cMI-1++++++cMU-1+++cME-1+",
  "cME-MAcMO-1+++++cYA-1++++cYA-YOcYU-1+++cYO-1+++++cRA-1+++cRI-1++++++cRU-1+++++cRE-1+++cRO-1+++++cWA-1++++cWI-1++",
  "++cWE-1+++cWO-1++++++cN-MU-MO-1+aHIRAGANA LETTER ARCHAIC WUaKATAKANA LETTER ARCHAIC YIdYEdWU",
  "1B150 aHIRAGANA LETTER SMALL WIdWEdWO",
  "1B164 aKATAKANA LETTER SMALL WIdWEdWOdN",
  "1BC00 aDUPLOYAN LETTER HcXcPcTcFcKcLcBcDcVcGcRcP NcD ScF NcK McR ScTHcSLOAN DHcDHcKKcSLOAN JcHLcLHcRHcMcNcJcS",
  "cM NcN McJ McS JcM WITH DOTcN WITH DOTcJ WITH DOTeDOTS INSIDE AND ABOVEcS WITH DOTfBELOWcM ScN ScJ ScS ScM N S",
  "cN M ScJ M ScS J ScJ S WITH DOTdNeScS TeRdPeRcT SdR ScWcWHcW RcS NdMcK R ScG R ScS KeRcAcSLOAN OWcOAcOcAOUcIcE",
  "cIEcSHORT IcUIcEEcSLOAN EHcROMANIAN IcSLOAN EEcLONG IcYEcUcEUcXWcU NcLONG UcROMANIAN UcUHcSLOAN UcOOHcOWcOUcWA",
  "cWOcWIcWEIcWOWcNASAL UdOdIdAcPERNIN ANdAMcSLOAN ENdANdONcVOCALIC M",
  "1BC70 bAFFIX LEFT HORIZONTAL SECANTcMID HORIZONTAL SECANTcRIGHT HORIZONTAL SECANTcLOW VERTICAL SECANT",
  "cMID VERTICAL SECANTcHIGH VERTICAL SECANTcATTACHED SECANTdLEFT-TO-RIGHT SECANTdTANGENTdTAILdE HOOKdI HOOK",
  "dTANGENT HOOK",
  "1BC80 cHIGH ACUTEdTIGHT ACUTEdGRAVEdLONG GRAVEdDOTdCIRCLEdLINEdWAVEdVERTICAL",
  "1BC90 cLOW ACUTEdTIGHT ACUTEdGRAVEdLONG GRAVEdDOTdCIRCLEdLINEdWAVEdVERTICALdARROW",
  "1BC9C bSIGN O WITH CROSSbTHICK LETTER SELECTORbDOUBLE MARKbPUNCTUATION CHINOOK FULL STOP",
  "aSHORTHAND FORMAT LETTER OVERLAPcCONTINUING OVERLAPcDOWN STEPcUP STEP"]

end SpellLint.Text
